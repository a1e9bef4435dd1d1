import SynapseYield.Shared.Python

set_option autoImplicit false

namespace Shared

-- int.__repr__ raises ValueError from this many digits on.
def maxStrDigits : Nat := 4300

def printable (n : Int) : Bool := n.natAbs < 10 ^ maxStrDigits

theorem printable_of_le {n m : Int} (nonneg : 0 ≤ n) (le : n ≤ m) (prints : printable m = true) :
    printable n = true := by
  simp only [printable, decide_eq_true_eq] at prints ⊢
  generalize 10 ^ maxStrDigits = limit at prints ⊢
  omega

theorem printable_one : printable 1 = true := by decide +kernel

def isSurrogate (c : CodePoint) : Bool := 0xD800 ≤ c.val && c.val ≤ 0xDFFF

-- UTF-8 has no lone surrogates.
def PyString.encodable (s : PyString) : Bool := s.points.all (! isSurrogate ·)

theorem PyString.encodable_append {s t : PyString} :
    (s ++ t).encodable = (s.encodable && t.encodable) := List.all_append

theorem PyString.encodable_of_isAscii {s : PyString} (ascii : s.isAscii = true) :
    s.encodable = true := by
  refine List.all_eq_true.mpr fun c member => ?_
  have small := List.all_eq_true.mp ascii c member
  simp only [decide_eq_true_eq] at small
  simp only [isSurrogate, Bool.not_eq_true', Bool.and_eq_false_iff, decide_eq_false_iff_not]
  omega

-- What a document consists of: the keys of its dicts, and the values that hold no others.
inductive JsonNode where
  | key (value : PyValue)
  | leaf (value : PyValue)

mutual

def PyValue.nodes : PyValue → List JsonNode
  | .list items => itemNodes items
  | .tuple items => itemNodes items
  | .dict entries => entryNodes entries
  | value => [.leaf value]

def itemNodes : List PyValue → List JsonNode
  | [] => []
  | item :: rest => item.nodes ++ itemNodes rest

def entryNodes : List (PyValue × PyValue) → List JsonNode
  | [] => []
  | (key, value) :: rest => .key key :: value.nodes ++ entryNodes rest

end

theorem mem_itemNodes {items : List PyValue} {node : JsonNode} :
    node ∈ itemNodes items ↔ ∃ item ∈ items, node ∈ item.nodes := by
  induction items with
  | nil => simp [itemNodes]
  | cons item rest ih => simp [itemNodes, ih]

def dumpsNode : JsonNode → Except PyError Unit
  | .key (.int n) => if printable n then .ok () else .error .valueError
  | .key (.tuple _) => .error .typeError
  | .key (.list _) => .error .typeError
  | .key (.dict _) => .error .typeError
  | .key (.object _) => .error .typeError
  | .leaf (.int n) => if printable n then .ok () else .error .valueError
  | .leaf (.object _) => .error .typeError
  | _ => .ok ()

def JsonNode.encodable : JsonNode → Bool
  | .key (.str s) => s.encodable
  | .leaf (.str s) => s.encodable
  | _ => true

namespace PyValue

-- json.dumps(value, ensure_ascii=False)
@[irreducible] def dumps (value : PyValue) : Except PyError Unit := value.nodes.forM dumpsNode

-- The text of json.dumps, as UTF-8.
@[irreducible] def encode (value : PyValue) : Except PyError Unit :=
  if value.nodes.all JsonNode.encodable then .ok () else .error .valueError

-- The keys that sort_keys=True can put in order.
def comparable (keys : List PyValue) : Bool :=
  keys.length ≤ 1 || keys.all (fun | .str _ => true | _ => false) ||
    keys.all (fun | .bool _ | .int _ | .float _ => true | _ => false)

mutual

def sortable : PyValue → Bool
  | .list items => itemsSortable items
  | .tuple items => itemsSortable items
  | .dict entries => comparable (entries.map Prod.fst) && entriesSortable entries
  | _ => true

def itemsSortable : List PyValue → Bool
  | [] => true
  | item :: rest => item.sortable && itemsSortable rest

def entriesSortable : List (PyValue × PyValue) → Bool
  | [] => true
  | (_, value) :: rest => value.sortable && entriesSortable rest

end

-- json.dumps(value, ensure_ascii=False, sort_keys=True)
def dumpsSorted (value : PyValue) : Except PyError Unit := do
  value.dumps
  if value.sortable then .ok () else .error .typeError

theorem dumps_ok {value : PyValue} :
    value.dumps = .ok () ↔ ∀ node ∈ value.nodes, dumpsNode node = .ok () := by
  unfold dumps
  induction value.nodes with
  | nil => simp [pure, Except.pure]
  | cons node rest ih =>
    cases head : dumpsNode node with
    | error raised => simp [head, bind, Except.bind]
    | ok done => simpa [head, bind, Except.bind] using ih

theorem encode_ok {value : PyValue} :
    value.encode = .ok () ↔ ∀ node ∈ value.nodes, node.encodable = true := by
  unfold encode
  rw [← List.all_eq_true]
  split <;> simp_all

end PyValue

section Reload

variable [PyText]

-- A key as json.dumps writes it.
def keyText : PyValue → PyString
  | .str s => s
  | .bool b => if b then "true" else "false"
  | .int n => (toString n : String)
  | .float .nan => "NaN"
  | .float .posInf => "Infinity"
  | .float .negInf => "-Infinity"
  | .float x => (PyText.str (.float x)).toOption.getD .empty
  | _ => "null"

mutual

-- What json.loads makes of the text of json.dumps.
def PyValue.reloaded : PyValue → PyValue
  | .list items => .list (reloadedItems items)
  | .tuple items => .list (reloadedItems items)
  | .dict entries => .dict (reloadedEntries [] entries)
  | value => value

def reloadedItems : List PyValue → List PyValue
  | [] => []
  | item :: rest => item.reloaded :: reloadedItems rest

def reloadedEntries (before : PyDict) : List (PyValue × PyValue) → PyDict
  | [] => before
  | (key, value) :: rest =>
    reloadedEntries (PyDict.set before (keyText key) value.reloaded) rest

end

end Reload

-- Whether a key is a string that is not among these.
def newKey (before : PyDict) : PyValue → Bool
  | .str s => ! before.any (·.1.isKey s)
  | _ => false

mutual

-- What json.loads gives: dicts have string keys, each of them once.
def PyValue.decoded : PyValue → Bool
  | .list items => decodedItems items
  | .tuple _ => false
  | .dict entries => decodedEntries [] entries
  | .object _ => false
  | _ => true

def decodedItems : List PyValue → Bool
  | [] => true
  | item :: rest => item.decoded && decodedItems rest

def decodedEntries (before : PyDict) : List (PyValue × PyValue) → Bool
  | [] => true
  | (key, value) :: rest =>
    newKey before key && value.decoded && decodedEntries (before ++ [(key, value)]) rest

end

section Reload

variable [PyText]

theorem PyDict.set_new {before : PyDict} {key value : PyValue} (fresh : newKey before key = true) :
    PyDict.set before (keyText key) value = before ++ [(key, value)] := by
  cases key with
  | str s =>
    simp only [newKey, Bool.not_eq_true'] at fresh
    simp [PyDict.set, keyText, fresh]
  | _ => cases fresh

mutual

theorem PyValue.reloaded_decoded : (value : PyValue) → value.decoded = true →
    value.reloaded = value
  | .list items, decoded => by
    simp only [PyValue.decoded] at decoded
    rw [PyValue.reloaded, reloadedItems_decoded items decoded]
  | .dict entries, decoded => by
    simp only [PyValue.decoded] at decoded
    rw [PyValue.reloaded, reloadedEntries_decoded [] entries decoded, List.nil_append]
  | .none, _ => rfl
  | .bool _, _ => rfl
  | .int _, _ => rfl
  | .float _, _ => rfl
  | .str _, _ => rfl

theorem reloadedItems_decoded : (items : List PyValue) → decodedItems items = true →
    reloadedItems items = items
  | [], _ => rfl
  | item :: rest, decoded => by
    simp only [decodedItems, Bool.and_eq_true] at decoded
    rw [reloadedItems, item.reloaded_decoded decoded.1, reloadedItems_decoded rest decoded.2]

theorem reloadedEntries_decoded (before : PyDict) : (entries : List (PyValue × PyValue)) →
    decodedEntries before entries = true → reloadedEntries before entries = before ++ entries
  | [], _ => (List.append_nil before).symm
  | (key, value) :: rest, decoded => by
    simp only [decodedEntries, Bool.and_eq_true] at decoded
    obtain ⟨⟨fresh, given⟩, others⟩ := decoded
    rw [reloadedEntries, value.reloaded_decoded given, PyDict.set_new fresh,
      reloadedEntries_decoded _ rest others, List.append_assoc, List.singleton_append]

end

end Reload

end Shared
