import SynapseYield.Backtest.ProviderSymbols
import SynapseYield.Properties.UsSecids
import SynapseYield.Shared.Padding

set_option autoImplicit false

namespace SynapseYield.Backtest

open Shared

inductive Instrument where
  | us (ticker : PyString)
  | hk (number : Nat)
deriving DecidableEq, Repr

def Instrument.market : Instrument → PyString
  | us _ => "us_equity"
  | hk _ => "hk_equity"

def isLetter (c : CodePoint) : Bool := Ascii.isUpper c || Ascii.isLower c

def codeBase (code : PyString) : PyString := dropEnd 3 code

def codeSuffix (code : PyString) : PyString := ⟨code.points.drop (code.points.length - 3)⟩

-- What the patterns of the two markets take a code for: letters with .US after them, three to five
-- digits with .HK after them, in any case.
def instrument (code : PyString) : Option Instrument :=
  let base := (codeBase code).points
  if Ascii.upper (codeSuffix code) = ".US" ∧ base ≠ [] ∧ base.all isLetter then
    some (.us (Ascii.upper (codeBase code)))
  else if Ascii.upper (codeSuffix code) = ".HK" ∧ 3 ≤ base.length ∧ base.length ≤ 5 ∧
      base.all Ascii.isDigit then
    some (.hk (Ascii.natural base))
  else none

-- Yahoo has four digits, and five for the numbers that need them.
def yahooWidth (number : Nat) : Nat := if number < 10000 then 4 else 5

/-- The symbol is the provider's own for the instrument. The case of a ticker makes no other of
it. -/
def Names (loader : LoaderName) : Instrument → PyString → Prop
  | .us ticker, symbol =>
    match loader with
    | .eastmoney => ∃ market own, Eastmoney.IsUsMarket market ∧ symbol = market ++ "." ++ own ∧
        Ascii.upper own = ticker
    | .akshare => Ascii.upper symbol ∈ Akshare.usPrefixes.map (· ++ ticker)
    | .stooq | .localFiles => Ascii.upper symbol = ticker ++ ".US"
    | _ => Ascii.upper symbol = ticker
  | .hk number, symbol =>
    match loader with
    | .eastmoney => symbol = ("116." : PyString) ++ ⟨padded 5 number⟩
    | .futu => symbol = ("HK." : PyString) ++ ⟨padded 5 number⟩
    | .akshare => symbol = ⟨padded 5 number⟩
    | .localFiles => instrument symbol = some (.hk number)
    | _ => symbol = (⟨padded (yahooWidth number) number⟩ : PyString) ++ ".HK"

-- The secid that stands for a ticker: the one that is held, or else the first of a US market that
-- the search gives.
def Outside.Stands [PyText] (outside : Outside) (ticker secid : PyString) : Prop :=
  outside.secids.lookup ticker = some (some secid) ∨
    outside.secids.lookup ticker = none ∧
      Eastmoney.Call.Finds ⟨ticker ++ ".US", outside.search ticker⟩ secid

/-- The loader has a name of its own for the instrument as the code spells it. -/
def Known [PyText] (outside : Outside) (code : PyString) : LoaderName → Instrument → Prop
  | .alphavantage, _ => False
  | .akshare, _ => Ascii.upper (codeSuffix code) = codeSuffix code
  | .yfinance, .hk _ => ¬ ((codeBase code).points.length = 5 ∧ (codeBase code).points.head? =
    some 0x30)
  | .eastmoney, .us ticker =>
    ∀ secid, outside.Stands ticker secid → Names .eastmoney (.us ticker) secid
  | _, _ => True

/-- The loader makes the same of two codes for one number. -/
def Alike (outside : Outside) (code other : PyString) : LoaderName → Prop
  | .akshare => code = other ∨ codeSuffix code = ".HK" ∧ codeSuffix other = ".HK"
  | .yfinance => (codeBase code).points.length = 5 ↔ (codeBase other).points.length = 5
  | .localFiles => code = other ∨
      outside.configured code = false ∧ outside.configured other = false
  | _ => True

section Points

def capital (c : CodePoint) : CodePoint := if Ascii.isLower c then c - 32 else c

def isPlain (c : CodePoint) : Bool := isLetter c || Ascii.isDigit c || c = 0x2E

theorem upper_points (text : PyString) : (Ascii.upper text).points = text.points.map capital := rfl

theorem capital_val {c : CodePoint} (lower : Ascii.isLower c = true) :
    (capital c).val = c.val - 32 := by
  rw [capital, if_pos lower]
  simp only [Ascii.isLower, Bool.and_eq_true, decide_eq_true_eq] at lower
  rw [Fin.sub_val_of_le (Fin.le_def.mpr (by simp; omega))]
  rfl

theorem capital_other {c : CodePoint} (other : Ascii.isLower c = false) : capital c = c := by
  rw [capital, other]
  rfl

theorem capital_letter {c : CodePoint} (letter : isLetter c = true) :
    Ascii.isUpper (capital c) = true := by
  cases lower : Ascii.isLower c with
  | true =>
    have value := capital_val lower
    simp only [Ascii.isLower, Bool.and_eq_true, decide_eq_true_eq] at lower
    simp only [Ascii.isUpper, value, Bool.and_eq_true, decide_eq_true_eq]
    omega
  | false => simpa [isLetter, lower, capital_other lower] using letter

theorem capital_upper {c : CodePoint} (upper : Ascii.isUpper c = true) : capital c = c := by
  apply capital_other
  simp only [Ascii.isUpper, Ascii.isLower, Bool.and_eq_true, decide_eq_true_eq,
    Bool.and_eq_false_iff,
    decide_eq_false_iff_not] at upper ⊢
  omega

theorem capital_digit {c : CodePoint} (digit : Ascii.isDigit c = true) : capital c = c := by
  apply capital_other
  simp only [Ascii.isDigit, Ascii.isLower, Bool.and_eq_true, decide_eq_true_eq,
    Bool.and_eq_false_iff,
    decide_eq_false_iff_not] at digit ⊢
  omega

theorem capital_small (c : CodePoint) :
    capital (if Ascii.isUpper c then c + 32 else c) = capital c := by
  split
  next upper =>
    rw [capital_upper upper]
    simp only [Ascii.isUpper, Bool.and_eq_true, decide_eq_true_eq] at upper
    have value : (c + 32).val = c.val + 32 := by
      rw [Fin.val_add]
      exact Nat.mod_eq_of_lt (by simp; omega)
    have lower : Ascii.isLower (c + 32) = true := by
      simp only [Ascii.isLower, value, Bool.and_eq_true, decide_eq_true_eq]
      omega
    exact Fin.ext (by rw [capital_val lower, value]; omega)
  next => rfl

theorem isPlain_of_capital {c : CodePoint} (plain : isPlain (capital c) = true) : isPlain c =
    true := by
  cases lower : Ascii.isLower c with
  | true => simp [isPlain, isLetter, lower]
  | false => rwa [capital_other lower] at plain

theorem isPlain_val {c : CodePoint} (plain : isPlain c = true) : 46 ≤ c.val ∧ c.val < 128 := by
  simp only [isPlain, isLetter, Ascii.isUpper, Ascii.isLower, Ascii.isDigit, Bool.or_eq_true,
    Bool.and_eq_true, decide_eq_true_eq] at plain
  rcases plain with ((letter | letter) | digit) | rfl
  · omega
  · omega
  · omega
  · decide

end Points

section Plain

variable [PyText] {text code : PyString} {base mark : List CodePoint} {market : PyString}

omit [PyText] in
theorem isAscii_plain (plain : ∀ c ∈ text.points, isPlain c = true) : text.isAscii = true :=
  List.all_eq_true.mpr fun c member => decide_eq_true (isPlain_val (plain c member)).2

theorem upper_plain (plain : ∀ c ∈ text.points, isPlain c = true) : text.upper = Ascii.upper text :=
  if_pos (isAscii_plain plain)

theorem lower_plain (plain : ∀ c ∈ text.points, isPlain c = true) : text.lower = Ascii.lower text :=
  if_pos (isAscii_plain plain)

omit [PyText] in
theorem dropWhile_plain {points : List CodePoint} (plain : ∀ c ∈ points, isPlain c = true) :
    points.dropWhile Ascii.isSpace = points := by
  cases points with
  | nil => rfl
  | cons c points =>
    have bounds := isPlain_val (plain c (List.mem_cons_self ..))
    have space : Ascii.isSpace c = false := by
      simp only [Ascii.isSpace, Bool.or_eq_false_iff, Bool.and_eq_false_iff,
        decide_eq_false_iff_not,
        Fin.ext_iff]
      refine ⟨⟨?_, ?_⟩, ?_⟩
      · exact fun same => by
          have value : c.val = 32 := same
          omega
      · omega
      · omega
    rw [List.dropWhile_cons_of_neg (by simp [space])]

theorem strip_plain (plain : ∀ c ∈ text.points, isPlain c = true) : text.strip = text := by
  have back : ∀ c ∈ text.points.reverse, isPlain c = true := fun c member =>
    plain c (List.mem_reverse.mp member)
  rw [PyString.strip, if_pos (isAscii_plain plain), Ascii.strip, dropWhile_plain plain,
    dropWhile_plain back, List.reverse_reverse]

section Text

variable {xs ys tail : List CodePoint} {c : CodePoint}

omit [PyText]

theorem eq_dot (dot : capital c = 0x2E) : c = 0x2E := by
  cases lower : Ascii.isLower c with
  | true =>
    have upper := capital_letter (c := c) (by simp [isLetter, lower])
    rw [dot] at upper
    exact absurd upper (by decide)
  | false => rwa [capital_other lower] at dot

theorem rpartition_append (absent : 0x2E ∉ ys) :
    Eastmoney.rpartition ⟨xs ++ 0x2E :: ys⟩ = (⟨xs⟩, ⟨ys⟩) := by
  have back : 0x2E ∉ ys.reverse := fun member => absent (List.mem_reverse.mp member)
  rw [Eastmoney.rpartition]
  simp only [List.reverse_append, List.reverse_cons, List.append_assoc, List.singleton_append]
  rw [cut_append back]
  simp

theorem removedFrom_append (absent : c ∉ xs) :
    removedFrom (c :: tail) 0 (xs ++ ys) = xs ++ removedFrom (c :: tail) 0 ys := by
  induction xs with
  | nil => rfl
  | cons d xs ih =>
    have other : (c :: tail).isPrefixOf (d :: (xs ++ ys)) = false := by
      have different : c ≠ d := fun same => absent (same ▸ List.mem_cons_self ..)
      simp [List.isPrefixOf_cons_cons, different]
    rw [List.cons_append, removedFrom, other,
      ih fun member => absent (List.mem_cons_of_mem _ member)]
    rfl

theorem removedFrom_length (old xs : List CodePoint) : removedFrom old xs.length xs = [] := by
  induction xs with
  | nil => rfl
  | cons d xs ih => exact ih

theorem endsWithAny_cons (text ending : PyString) (others : List PyString) :
    endsWithAny text (ending :: others) = (endsWithAny text [ending] || endsWithAny text others) :=
      by
  simp [endsWithAny]

end Text

structure Spelled (code : PyString) (base mark : List CodePoint) (market : PyString) : Prop where
  points : code.points = base ++ mark
  base : ∀ c ∈ base, isLetter c = true ∨ Ascii.isDigit c = true
  mark : mark.map capital = market.points
  known : market = ".US" ∨ market = ".HK"

namespace Spelled

variable (spelled : Spelled code base mark market)
include spelled

omit [PyText] in
theorem market_plain : ∀ c ∈ market.points, isPlain c = true := by
  apply List.all_eq_true.mp
  rcases spelled.known with rfl | rfl <;> decide

omit [PyText] in
theorem market_length : market.points.length = 3 := by
  rcases spelled.known with rfl | rfl <;> decide

omit [PyText] in
theorem mark_length : mark.length = 3 := by
  rw [← spelled.market_length, ← spelled.mark, List.length_map]

omit [PyText] in
theorem base_plain : ∀ c ∈ base, isPlain c = true := by
  intro c member
  rcases spelled.base c member with letter | digit
  · simp [isPlain, letter]
  · simp [isPlain, digit]

omit [PyText] in
theorem mark_plain : ∀ c ∈ mark, isPlain c = true := by
  intro c member
  apply isPlain_of_capital
  apply spelled.market_plain
  rw [← spelled.mark]
  exact List.mem_map_of_mem member

omit [PyText] in
theorem plain : ∀ c ∈ code.points, isPlain c = true := by
  intro c member
  rw [spelled.points, List.mem_append] at member
  exact member.elim (spelled.base_plain c) (spelled.mark_plain c)

theorem upper : code.upper = (⟨base.map capital⟩ : PyString) ++ market := by
  rw [upper_plain spelled.plain]
  have points := upper_points code
  rw [spelled.points, List.map_append, spelled.mark] at points
  exact congrArg PyString.mk points

theorem strip : code.strip = code := strip_plain spelled.plain

omit [PyText] in
theorem dropEnd_code : dropEnd 3 code = ⟨base⟩ := by
  rw [dropEnd, spelled.points, List.length_append, spelled.mark_length, Nat.add_sub_cancel,
    List.take_left]

theorem dropEnd_upper : dropEnd 3 code.upper = ⟨base.map capital⟩ := by
  rw [spelled.upper]
  show dropEnd 3 ⟨base.map capital ++ market.points⟩ = _
  rw [dropEnd, List.length_append, spelled.market_length, Nat.add_sub_cancel, List.take_left]

theorem endsWith {ending : PyString} (three : ending.points.length = 3) :
    endsWithAny code.upper [ending] = decide (ending = market) := by
  rw [endsWithAny, List.any_cons, List.any_nil, Bool.or_false, spelled.upper, Bool.eq_iff_iff,
    decide_eq_true_iff, List.isSuffixOf_iff_suffix]
  constructor
  · intro suffix
    obtain ⟨before, same⟩ := suffix
    have parts := List.append_inj' same (three.trans spelled.market_length.symm)
    exact congrArg PyString.mk parts.2
  · intro same
    rw [same]
    exact List.suffix_append ..

omit [PyText] in
theorem mark_dot : ∃ ending, mark = 0x2E :: ending ∧ 0x2E ∉ ending ∧
    (⟨ending.map capital⟩ : PyString) = ⟨market.points.tail⟩ := by
  have dotted : ∃ rest, market.points = 0x2E :: rest ∧ 0x2E ∉ rest := by
    rcases spelled.known with rfl | rfl
    · exact ⟨("US" : PyString).points, by decide, by decide⟩
    · exact ⟨("HK" : PyString).points, by decide, by decide⟩
  obtain ⟨rest, market, once⟩ := dotted
  have mapped := spelled.mark
  rw [market, List.map_eq_cons_iff] at mapped
  obtain ⟨c, ending, rfl, dot, same⟩ := mapped
  refine ⟨ending, ?_, ?_, ?_⟩
  · rw [eq_dot dot]
  · intro member
    apply once
    rw [← same]
    exact List.mem_map.mpr ⟨0x2E, member, by decide⟩
  · rw [same, market, List.tail_cons]

omit [PyText] in
theorem base_dot : 0x2E ∉ base := fun member => by
  have plain := spelled.base _ member
  revert plain
  decide

theorem parts : 0x2E ∈ code.points ∧
    (Eastmoney.rpartition code).1.strip.upper = ⟨base.map capital⟩ ∧
    (Eastmoney.rpartition code).2.strip.upper = ⟨market.points.tail⟩ := by
  obtain ⟨ending, marked, once, same⟩ := spelled.mark_dot
  have parts : Eastmoney.rpartition code = (⟨base⟩, ⟨ending⟩) := by
    have whole : code = ⟨base ++ 0x2E :: ending⟩ := congrArg PyString.mk (marked ▸ spelled.points)
    rw [whole, rpartition_append once]
  have basePlain : ∀ c ∈ (⟨base⟩ : PyString).points, isPlain c = true := spelled.base_plain
  have endingPlain : ∀ c ∈ (⟨ending⟩ : PyString).points, isPlain c = true := fun c member =>
    spelled.mark_plain c (marked ▸ List.mem_cons_of_mem _ member)
  rw [parts]
  refine ⟨?_, ?_, ?_⟩
  · rw [spelled.points, marked]
    simp
  · rw [strip_plain basePlain, upper_plain basePlain]
    rfl
  · rw [strip_plain endingPlain, upper_plain endingPlain]
    exact same

omit [PyText] in
theorem clean : Local.clean code = code := by
  rw [Local.clean, if_neg]
  intro prefixed
  have colon : 0x3A ∈ code.points :=
    (List.isPrefixOf_iff_prefix.mp prefixed).subset (by decide)
  exact absurd (spelled.plain _ colon) (by decide)

-- str.replace takes the suffix away where it is in capitals, and nothing else.
omit [PyText] in
theorem removed_market :
    removed market code = if mark = market.points then ⟨base⟩ else code := by
  obtain ⟨ending, marked, once, same⟩ := spelled.mark_dot
  have dotted : ∃ rest, market.points = 0x2E :: rest := by
    rcases spelled.known with rfl | rfl
    · exact ⟨("US" : PyString).points, by decide⟩
    · exact ⟨("HK" : PyString).points, by decide⟩
  obtain ⟨rest, first⟩ := dotted
  have lengths : ending.length = rest.length := by
    have three := spelled.mark_length
    have also := spelled.market_length
    rw [marked, List.length_cons] at three
    rw [first, List.length_cons] at also
    omega
  rw [removed, spelled.points, first, removedFrom_append spelled.base_dot, marked, removedFrom]
  split
  next occurs =>
    have whole := (List.isPrefixOf_iff_prefix.mp occurs).eq_of_length (by simp [lengths])
    rw [if_pos whole.symm, List.length_cons, Nat.add_sub_cancel, ← lengths, removedFrom_length,
      List.append_nil]
  next misses =>
    have other : ¬ 0x2E :: ending = 0x2E :: rest := fun whole =>
      misses (List.isPrefixOf_iff_prefix.mpr (whole ▸ List.prefix_rfl))
    have kept : removedFrom (0x2E :: rest) 0 ending = ending := by
      have appended := (@removedFrom_append _ [] rest) once
      rwa [List.append_nil, removedFrom, List.append_nil] at appended
    rw [if_neg other, kept, ← marked, ← spelled.points]

end Spelled

omit [PyText] in
theorem spelled_us {ticker : PyString} (named : instrument code = some (.us ticker)) :
    Spelled code (codeBase code).points (codeSuffix code).points ".US" ∧
      (∀ c ∈ (codeBase code).points, isLetter c = true) ∧ (codeBase code).points ≠ [] ∧
      ticker = Ascii.upper (codeBase code) := by
  unfold instrument at named
  dsimp only at named
  split at named
  next found =>
    obtain ⟨suffix, some, all⟩ := found
    have letters := List.all_eq_true.mp all
    injection named with same
    injection same with same
    refine ⟨⟨?_, fun c member => .inl (letters c member), congrArg PyString.points suffix,
      .inl rfl⟩,
      letters, some, same.symm⟩
    exact (List.take_append_drop _ _).symm
  next =>
    split at named
    · injection named with same
      cases same
    · cases named

omit [PyText] in
theorem spelled_hk {number : Nat} (named : instrument code = some (.hk number)) :
    Spelled code (codeBase code).points (codeSuffix code).points ".HK" ∧
      (∀ c ∈ (codeBase code).points, Ascii.isDigit c = true) ∧
      3 ≤ (codeBase code).points.length ∧ (codeBase code).points.length ≤ 5 ∧
      number = Ascii.natural (codeBase code).points := by
  unfold instrument at named
  dsimp only at named
  split at named
  next =>
    injection named with same
    cases same
  next =>
    split at named
    next found =>
      obtain ⟨suffix, least, most, all⟩ := found
      have digits := List.all_eq_true.mp all
      injection named with same
      injection same with same
      refine ⟨⟨?_, fun c member => .inr (digits c member), congrArg PyString.points suffix,
        .inr rfl⟩,
        digits, least, most, same.symm⟩
      exact (List.take_append_drop _ _).symm
    next => cases named

end Plain

section UsLoaders

variable [PyText] {Row : Type} {providers : Providers Row} {outside : Outside}
variable {code : PyString} {base mark : List CodePoint}

theorem Spelled.other {market : PyString} {endings : List PyString}
    (spelled : Spelled code base mark market)
    (apart : ∀ ending ∈ endings, ending.points.length = 3 ∧ ending ≠ market) :
    endsWithAny code.upper endings = false := by
  refine List.any_eq_false.mpr fun ending member ends => ?_
  have single : endsWithAny code.upper [ending] = true := by simpa [endsWithAny] using ends
  rw [spelled.endsWith (apart ending member).1] at single
  exact (apart ending member).2 (of_decide_eq_true single)

theorem Spelled.upper_filled {market : PyString} (spelled : Spelled code base mark market) :
    code.upper ≠ "" := by
  rw [spelled.upper]
  intro empty
  have none := congrArg PyString.points empty
  rw [show ((⟨base.map capital⟩ : PyString) ++ market).points = base.map capital ++ market.points
    from rfl, show ("" : PyString).points = [] from rfl, List.append_eq_nil_iff] at none
  have three := spelled.market_length
  rw [none.2] at three
  cases three

theorem Spelled.own {market : PyString} (spelled : Spelled code base mark market) :
    endsWithAny code.upper [market] = true := by
  rw [spelled.endsWith spelled.market_length]
  exact decide_eq_true rfl

variable (spelled : Spelled code base mark ".US")
include spelled

theorem Yahoo.mapSymbol_us : Yahoo.mapSymbol code = ⟨base⟩ := by
  rw [Yahoo.mapSymbol, spelled.strip, if_pos spelled.own, spelled.dropEnd_code]

theorem Yahoo.isUsOrHk_us : Yahoo.isUsOrHk code = true := by
  rw [Yahoo.isUsOrHk, spelled.strip, endsWithAny_cons, spelled.own, Bool.true_or]

theorem Stooq.mapSymbol_us : Stooq.mapSymbol code = Ascii.lower code := by
  rw [Stooq.mapSymbol, spelled.strip, lower_plain spelled.plain]

theorem Sina.toSinaSymbol_us : Sina.toSinaSymbol code = ⟨base.map capital⟩ := by
  have dotted : code.upper = ⟨base.map capital ++ 0x2E :: ("US" : PyString).points⟩ := by
    rw [spelled.upper]
    rfl
  rw [Sina.toSinaSymbol, dotted, if_pos (by simp), rpartition_append (by decide)]

theorem Yfinance.toYfinanceSymbol_us : Yfinance.toYfinanceSymbol code = ⟨base.map capital⟩ := by
  rw [Yfinance.toYfinanceSymbol, spelled.strip, if_pos spelled.own, spelled.dropEnd_upper]

theorem Finnhub.toFinnhubSymbol_us : Finnhub.toFinnhubSymbol code = ⟨base.map capital⟩ := by
  rw [Finnhub.toFinnhubSymbol, spelled.strip, if_pos spelled.own, spelled.dropEnd_upper]

theorem Fmp.fmpSymbol_us : Fmp.fmpSymbol code = ⟨base.map capital⟩ := by
  rw [Fmp.fmpSymbol, spelled.strip, if_pos spelled.own, spelled.dropEnd_upper]

theorem Tiingo.toTiingoSymbol_us (letters : ∀ c ∈ base, isLetter c = true) (filled : base ≠ []) :
    Tiingo.toTiingoSymbol code = some (Ascii.lower ⟨base.map capital⟩) := by
  have upper : ∀ c ∈ base.map capital, Ascii.isUpper c = true := by
    intro c member
    obtain ⟨d, within, rfl⟩ := List.mem_map.mp member
    exact capital_letter (letters d within)
  have plain : ∀ c ∈ base.map capital, isPlain c = true := fun c member => by
    simp [isPlain, isLetter, upper c member]
  have undotted : ¬ (0x2E ∈ base.map capital ∨ 0x2D ∈ base.map capital) := by
    rintro (member | member)
    · exact absurd (upper _ member) (by decide)
    · exact absurd (upper _ member) (by decide)
  have alnum : (base.map capital).all PyString.isalnum = true := by
    refine List.all_eq_true.mpr fun c member => ?_
    rw [PyString.isalnum, if_pos (isPlain_val (plain c member)).2]
    simp [upper c member]
  have text : code.upper ≠ "" := spelled.upper_filled
  unfold Tiingo.toTiingoSymbol
  simp only [spelled.strip, if_neg text, spelled.own, if_true, spelled.dropEnd_upper,
    if_neg undotted, alnum]
  rw [if_pos (by simpa using filled), lower_plain plain]

theorem Akshare.fetchOne_us :
    Akshare.fetchOne providers outside.answers code = Akshare.fetchUs outside.answers code := by
  have etf : isEtfListed providers code = false := by
    rw [isEtfListed]
    simp only [(@Spelled.other _ _ _ _ _ [".SH", ".SZ"] spelled) (by decide), Bool.false_and]
  have aShare : Akshare.isAShare code = false := spelled.other (by decide)
  have us : Akshare.isUs code = true := spelled.own
  rw [Akshare.fetchOne, etf, aShare, us]
  rfl

theorem Eastmoney.ticker_us (filled : base ≠ []) :
    Eastmoney.ticker code = some ⟨base.map capital⟩ := by
  obtain ⟨dotted, ticker, suffix⟩ := spelled.parts
  have text : (⟨base.map capital⟩ : PyString) ≠ "" := fun empty =>
    filled (List.map_eq_nil_iff.mp (congrArg PyString.points empty))
  unfold Eastmoney.ticker
  simp only [ticker]
  rw [if_pos ⟨dotted, suffix.trans rfl, text⟩]

theorem Eastmoney.asked_us (filled : base ≠ []) {secid : PyString} :
    secid ∈ asked providers outside code .eastmoney ↔
      outside.Stands ⟨base.map capital⟩ secid := by
  have named := Eastmoney.ticker_us spelled filled
  have text : Eastmoney.searchText code = ⟨base.map capital⟩ := by
    unfold Eastmoney.ticker at named
    dsimp only at named
    split at named
    · exact Option.some.inj named
    · cases named
  have resolved := (@Eastmoney.resolveSecid_us _ outside.secids
    ⟨code, outside.search ⟨base.map capital⟩⟩) named
  have found := @Eastmoney.finds_iff _ secid
    ⟨(⟨base.map capital⟩ : PyString) ++ ".US", outside.search ⟨base.map capital⟩⟩
  rw [asked, text, resolved, Eastmoney.resolveUsSecid, Outside.Stands, ← found, Option.mem_toList]
  cases outside.secids.lookup ⟨base.map capital⟩ with
  | none => simp [Eastmoney.Call.finds]
  | some held => simp

end UsLoaders

section HkLoaders

variable [PyText] {Row : Type} {providers : Providers Row} {outside : Outside}
variable {code : PyString} {base mark : List CodePoint}

omit [PyText] in
theorem zfill_digits (digits : ∀ c ∈ base, Ascii.isDigit c = true) (width : Nat) :
    zfill width ⟨base⟩ = ⟨padded (max width base.length) (Ascii.natural base)⟩ := by
  have split : max width base.length = (width - base.length) + base.length := by omega
  rw [split, padded_natural digits]
  cases base with
  | nil => simp [zfill]
  | cons c base =>
    have unsigned : ¬ (c = 0x2B ∨ c = 0x2D) := by
      rintro (rfl | rfl)
      · exact absurd (digits _ (List.mem_cons_self ..)) (by decide)
      · exact absurd (digits _ (List.mem_cons_self ..)) (by decide)
    rw [zfill]
    exact if_neg unsigned

omit [PyText] in
theorem yahooWidth_natural (digits : ∀ c ∈ base, Ascii.isDigit c = true) (most : base.length ≤ 5) :
    max 4 base.length = yahooWidth (Ascii.natural base) ↔
      ¬ (base.length = 5 ∧ base.head? = some 0x30) := by
  have bound := natural_lt digits
  by_cases five : base.length = 5
  · cases base with
    | nil => cases five
    | cons c base =>
      have four : base.length = 4 := by simpa using five
      by_cases zero : c = 0x30
      · subst zero
        have small := natural_lt fun d member => digits d (List.mem_cons_of_mem _ member)
        rw [four, ← natural_cons_zero] at small
        rw [yahooWidth, if_pos (show Ascii.natural (0x30 :: base) < 10000 from small)]
        simp [five]
      · have large := le_natural digits zero
        rw [four] at large
        simp only [five, yahooWidth, List.head?_cons, Option.some.injEq, zero, and_false,
          not_false_eq_true, iff_true]
        rw [if_neg (by omega)]
        rfl
  · have small : Ascii.natural base < 10000 :=
      lt_of_lt_of_le bound (Nat.pow_le_pow_right (by decide) (by omega : base.length ≤ 4))
    simp only [five, false_and, not_false_eq_true, iff_true, yahooWidth, if_pos small]
    omega

variable (spelled : Spelled code base mark ".HK") (digits : ∀ c ∈ base, Ascii.isDigit c = true)
include spelled digits

omit digits in
theorem Yahoo.isUsOrHk_hk : Yahoo.isUsOrHk code = true := by
  rw [Yahoo.isUsOrHk, spelled.strip, endsWithAny_cons, spelled.own, Bool.or_true]

omit digits in
theorem us_other : ¬ endsWithAny code.upper [".US"] = true := by
  rw [spelled.other (by decide)]
  decide

omit [PyText] spelled in
theorem map_capital_digits : base.map capital = base :=
  (List.map_congr_left fun c member => capital_digit (digits c member)).trans (List.map_id _)

theorem Futu.toFutuSymbol_hk (most : base.length ≤ 5) :
    Futu.toFutuSymbol code = ("HK." : PyString) ++ ⟨padded 5 (Ascii.natural base)⟩ := by
  rw [Futu.toFutuSymbol, spelled.strip, if_pos spelled.own, spelled.dropEnd_upper,
    map_capital_digits digits, zfill_digits digits, Nat.max_eq_left most]

theorem Yfinance.toYfinanceSymbol_hk : Yfinance.toYfinanceSymbol code =
    (⟨padded (max 4 base.length) (Ascii.natural base)⟩ : PyString) ++ ".HK" := by
  rw [Yfinance.toYfinanceSymbol, spelled.strip, spelled.dropEnd_upper, map_capital_digits digits]
  rw [if_neg (us_other spelled), if_pos spelled.own]
  dsimp only
  rw [zfill_digits digits, Nat.max_eq_left (Nat.le_max_right ..)]

theorem Yahoo.mapSymbol_hk (most : base.length ≤ 5) : Yahoo.mapSymbol code =
    (⟨padded (yahooWidth (Ascii.natural base)) (Ascii.natural base)⟩ : PyString) ++ ".HK" := by
  have kept : ∀ c ∈ base.dropWhile (· = 0x30), Ascii.isDigit c = true := fun c member =>
    digits c ((List.dropWhile_sublist _).subset member)
  have short : (base.dropWhile (· = 0x30)).length ≤ 5 :=
    (List.dropWhile_sublist _).length_le.trans most
  -- The digits without the zeros before them are as many as the number has.
  have width := (yahooWidth_natural kept short).mpr fun wide => by
    have first := List.head?_dropWhile_not (fun c : CodePoint => decide (c = 0x30)) base
    rw [wide.2] at first
    cases first
  rw [natural_dropZeros] at width
  rw [Yahoo.mapSymbol, spelled.strip, spelled.dropEnd_code, if_neg (us_other spelled),
    if_pos spelled.own]
  dsimp only
  congr 1
  split
  next none =>
    rw [none] at width
    have zero := natural_dropZeros base
    rw [none] at zero
    rw [← width, ← zero]
    decide
  next => rw [zfill_digits kept, natural_dropZeros, width]

omit [PyText] in
theorem Akshare.fetchHk_hk (least : 3 ≤ base.length) (most : base.length ≤ 5) :
    Akshare.fetchHk code =
      if mark = (".HK" : PyString).points then ⟨padded 5 (Ascii.natural base)⟩ else code := by
  rw [Akshare.fetchHk, spelled.removed_market]
  split
  next => rw [zfill_digits digits, Nat.max_eq_left most]
  next =>
    have long : 5 - code.points.length = 0 := by
      rw [spelled.points, List.length_append, spelled.mark_length]
      omega
    rw [zfill, long]
    split
    next empty => exact congrArg PyString.mk empty.symm
    next whole =>
      rw [List.replicate_zero, List.nil_append, List.nil_append, ite_self]
      exact congrArg PyString.mk whole.symm

omit digits in
theorem Akshare.fetchOne_hk :
    Akshare.fetchOne providers outside.answers code = [Akshare.fetchHk code] := by
  have etf : isEtfListed providers code = false := by
    rw [isEtfListed]
    simp only [(@Spelled.other _ _ _ _ _ [".SH", ".SZ"] spelled) (by decide), Bool.false_and]
  have aShare : Akshare.isAShare code = false := spelled.other (by decide)
  have us : Akshare.isUs code = false := spelled.other (by decide)
  have hk : Akshare.isHk code = true := spelled.own
  rw [Akshare.fetchOne, etf, aShare, us, hk]
  rfl

theorem Eastmoney.asked_hk (filled : base ≠ []) (most : base.length ≤ 5) :
    asked providers outside code .eastmoney =
      [("116." : PyString) ++ ⟨padded 5 (Ascii.natural base)⟩] := by
  obtain ⟨dotted, number, suffix⟩ := spelled.parts
  have text : (⟨base⟩ : PyString) ≠ "" := fun empty => filled (congrArg PyString.points empty)
  rw [map_capital_digits digits] at number
  rw [asked, Eastmoney.resolveSecid, if_neg (not_not.mpr dotted)]
  dsimp only
  rw [number, suffix, if_neg text, if_neg (by decide), if_pos (by decide), zfill_digits digits,
    Nat.max_eq_left most]
  rfl

end HkLoaders

section Agreement

variable [PyText] {Row : Type} {providers : Providers Row} {outside : Outside}
variable {code other ticker : PyString} {base mark : List CodePoint} {number : Nat}
variable {loader : LoaderName}

omit [PyText] in
theorem Akshare.mem_upToAnswer {answers : PyString → Bool} {symbol : PyString}
    {symbols : List PyString} (asked : symbol ∈ Akshare.upToAnswer answers symbols) :
    symbol ∈ symbols := by
  induction symbols with
  | nil => exact asked
  | cons first rest ih =>
    rw [Akshare.upToAnswer] at asked
    split at asked
    · exact List.mem_cons.mpr (.inl (List.mem_singleton.mp asked))
    · rcases List.mem_cons.mp asked with same | later
      · exact List.mem_cons.mpr (.inl same)
      · exact List.mem_cons_of_mem _ (ih later)

omit [PyText] in
theorem Akshare.first_upToAnswer {answers : PyString → Bool} {symbol : PyString}
    {symbols : List PyString} : symbol ∈ Akshare.upToAnswer answers (symbol :: symbols) := by
  rw [Akshare.upToAnswer]
  split <;> exact List.mem_cons_self ..

omit [PyText] in
theorem append_points (s t : PyString) : (s ++ t).points = s.points ++ t.points := rfl

omit [PyText] in
theorem Akshare.upper_prefixed {before : PyString} (prefixed : before ∈ Akshare.usPrefixes)
    (text : PyString) : Ascii.upper (before ++ text) = before ++ Ascii.upper text := by
  have plain : Ascii.upper before = before := by
    revert prefixed
    revert before
    decide
  apply congrArg PyString.mk
  have points := congrArg PyString.points plain
  rw [upper_points] at points
  rw [append_points, List.map_append]
  exact congrArg (· ++ _) points

omit [PyText] in
theorem Akshare.prefix_length : ∀ before ∈ Akshare.usPrefixes, before.points.length ≤ 4 := by decide

omit [PyText] in
theorem Akshare.four_prefix : ("105." : PyString).points.length = 4 := by decide

-- A suffix that is still there makes another symbol of it.
omit [PyText] in
theorem Akshare.names_us (spelled : Spelled code base mark ".US") :
    (∀ symbol ∈ Akshare.fetchUs outside.answers code,
      Names .akshare (.us ⟨base.map capital⟩) symbol) ↔ mark = (".US" : PyString).points := by
  have text := spelled.removed_market
  constructor
  · intro named
    by_contra other
    rw [if_neg other] at text
    have first : Ascii.upper (("105." : PyString) ++ removed ".US" code) ∈
        Akshare.usPrefixes.map (· ++ (⟨base.map capital⟩ : PyString)) :=
      named _ Akshare.first_upToAnswer
    obtain ⟨before, prefixed, same⟩ := List.mem_map.mp first
    have short := Akshare.prefix_length before prefixed
    have lengths := congrArg (fun text => text.points.length) same
    simp only [text, append_points, upper_points, List.length_append, List.length_map,
      spelled.points, spelled.mark_length, four_prefix] at lengths
    omega
  · intro whole
    rw [if_pos whole] at text
    intro symbol asked
    rw [Akshare.fetchUs, text] at asked
    obtain ⟨before, prefixed, rfl⟩ := List.mem_map.mp (Akshare.mem_upToAnswer asked)
    rw [Names, Akshare.upper_prefixed prefixed]
    exact List.mem_map.mpr ⟨before, prefixed, rfl⟩

omit [PyText] in
theorem upper_lower (text : PyString) : Ascii.upper (Ascii.lower text) = Ascii.upper text := by
  apply congrArg PyString.mk
  rw [Ascii.lower]
  simp only [List.map_map]
  exact List.map_congr_left fun c _ => capital_small c

omit [PyText] in
theorem upper_letters (letters : ∀ c ∈ base, isLetter c = true) :
    Ascii.upper ⟨base.map capital⟩ = ⟨base.map capital⟩ := by
  apply congrArg PyString.mk
  rw [List.map_map]
  exact List.map_congr_left fun c member => capital_upper (capital_letter (letters c member))

omit [PyText] in
theorem suffix_upper {market : PyString}
    (spelled : Spelled code base (codeSuffix code).points market) :
    (codeSuffix code).points = market.points ↔ Ascii.upper (codeSuffix code) = codeSuffix code := by
  have upper : Ascii.upper (codeSuffix code) = market := congrArg PyString.mk spelled.mark
  rw [upper]
  exact ⟨fun same => congrArg PyString.mk same.symm, fun same => congrArg PyString.points same.symm⟩

theorem names_us_iff (named : instrument code = some (.us ticker))
    (chained : loader.name ∈ fallbackChain "us_equity") :
    (∀ symbol ∈ asked providers outside code loader, Names loader (.us ticker) symbol) ↔
      Known outside code loader (.us ticker) := by
  obtain ⟨spelled, letters, filled, rfl⟩ := spelled_us named
  have same : Ascii.upper (codeBase code) = ⟨(codeBase code).points.map capital⟩ := rfl
  have capitals := upper_letters letters
  have whole : Ascii.upper code = ⟨(codeBase code).points.map capital⟩ ++ ".US" := by
    rw [← upper_plain spelled.plain, spelled.upper]
  have text : (⟨(codeBase code).points.map capital⟩ : PyString) ≠ "" := fun empty =>
    filled (List.map_eq_nil_iff.mp (congrArg PyString.points empty))
  rw [same]
  cases loader with
  | yahoo =>
    rw [asked, if_pos (Yahoo.isUsOrHk_us spelled), Yahoo.mapSymbol_us spelled, List.forall_mem_singleton]
    exact iff_of_true rfl trivial
  | stooq =>
    rw [asked, Stooq.mapSymbol_us spelled, List.forall_mem_singleton]
    exact iff_of_true ((upper_lower code).trans whole) trivial
  | sina =>
    have us : Sina.isUsEquity code = true := spelled.own
    rw [asked, if_pos us, Sina.toSinaSymbol_us spelled, List.forall_mem_singleton]
    exact iff_of_true capitals trivial
  | eastmoney =>
    exact forall_congr' fun secid => imp_congr_left (Eastmoney.asked_us spelled filled)
  | yfinance =>
    rw [asked, Yfinance.toYfinanceSymbol_us spelled, List.forall_mem_singleton]
    exact iff_of_true capitals trivial
  | tiingo =>
    rw [asked, Tiingo.toTiingoSymbol_us spelled letters filled, Option.toList_some,
      List.forall_mem_singleton]
    exact iff_of_true ((upper_lower _).trans capitals) trivial
  | fmp =>
    rw [asked, Fmp.fmpSymbol_us spelled, if_neg text, List.forall_mem_singleton]
    exact iff_of_true capitals trivial
  | finnhub =>
    rw [asked, Finnhub.toFinnhubSymbol_us spelled, List.forall_mem_singleton]
    exact iff_of_true capitals trivial
  | alphavantage =>
    refine iff_of_false (fun own => ?_) id
    rw [asked, spelled.strip, if_neg spelled.upper_filled, upper_plain spelled.plain] at own
    have first : Ascii.upper (Ascii.upper code) = ⟨(codeBase code).points.map capital⟩ :=
      own _ (List.mem_singleton.mpr rfl)
    have lengths := congrArg (fun text => text.points.length) first
    rw [upper_points, upper_points] at lengths
    simp only [List.length_map, spelled.points, List.length_append, spelled.mark_length] at lengths
    omega
  | akshare =>
    rw [asked, Akshare.fetchOne_us spelled, Akshare.names_us spelled, Known, suffix_upper spelled]
  | localFiles =>
    refine iff_of_true (fun symbol member => ?_) trivial
    rw [asked, spelled.clean] at member
    split at member
    · rw [List.mem_singleton.mp member]
      exact whole
    · cases member
  | tushare | okx | baostock | tencent | mootdx | ccxt | futu => exact absurd chained (by decide)

theorem names_hk_iff (named : instrument code = some (.hk number))
    (chained : loader.name ∈ fallbackChain "hk_equity") :
    (∀ symbol ∈ asked providers outside code loader, Names loader (.hk number) symbol) ↔
      Known outside code loader (.hk number) := by
  obtain ⟨spelled, digits, least, most, rfl⟩ := spelled_hk named
  have filled : (codeBase code).points ≠ [] := fun none => by
    rw [none] at least
    cases least
  cases loader with
  | eastmoney =>
    rw [Eastmoney.asked_hk spelled digits filled most, List.forall_mem_singleton]
    exact iff_of_true rfl trivial
  | yahoo =>
    rw [asked, if_pos (Yahoo.isUsOrHk_hk spelled), Yahoo.mapSymbol_hk spelled digits most, List.forall_mem_singleton]
    exact iff_of_true rfl trivial
  | futu =>
    rw [asked, Futu.toFutuSymbol_hk spelled digits most, List.forall_mem_singleton]
    exact iff_of_true rfl trivial
  | yfinance =>
    rw [asked, Yfinance.toYfinanceSymbol_hk spelled digits, Known,
      ← yahooWidth_natural digits most]
    simp only [List.mem_singleton, forall_eq, Names]
    constructor
    · intro same
      have lengths := congrArg (fun text => text.points.length) same
      simp only [append_points, List.length_append, padded_length] at lengths
      omega
    · intro width
      rw [width]
  | akshare =>
    rw [asked, Akshare.fetchOne_hk spelled, Akshare.fetchHk_hk spelled digits least most, Known,
      ← suffix_upper spelled]
    simp only [List.mem_singleton, forall_eq, Names]
    constructor
    · intro same
      by_contra other
      rw [if_neg other] at same
      have lengths := congrArg (fun text => text.points.length) same
      simp only [spelled.points, List.length_append, spelled.mark_length, padded_length] at lengths
      omega
    · intro whole
      rw [if_pos whole]
  | localFiles =>
    refine iff_of_true (fun symbol member => ?_) trivial
    rw [asked, spelled.clean] at member
    split at member
    · rw [List.mem_singleton.mp member]
      exact named
    · cases member
  | tushare | okx | baostock | tencent | mootdx | ccxt | stooq | sina | finnhub | alphavantage
  | tiingo | fmp => exact absurd chained (by decide)

theorem Akshare.asked_hk (named : instrument code = some (.hk number)) :
    asked providers outside code .akshare =
      [if codeSuffix code = ".HK" then ⟨padded 5 number⟩ else code] := by
  obtain ⟨spelled, digits, least, most, rfl⟩ := spelled_hk named
  rw [asked, Akshare.fetchOne_hk spelled, Akshare.fetchHk_hk spelled digits least most]
  have suffix : (codeSuffix code).points = (".HK" : PyString).points ↔ codeSuffix code = ".HK" :=
    ⟨congrArg PyString.mk, congrArg PyString.points⟩
  by_cases whole : codeSuffix code = ".HK"
  · rw [if_pos whole, if_pos (suffix.mpr whole)]
  · rw [if_neg whole, if_neg (mt suffix.mp whole)]

omit [PyText] in
theorem padded_ne (named : instrument code = some (.hk number)) (n : Nat) :
    (⟨padded 5 n⟩ : PyString) ≠ code := by
  obtain ⟨spelled, digits, least, most, same⟩ := spelled_hk named
  intro equal
  have lengths := congrArg (fun text => text.points.length) equal
  simp only [spelled.points, List.length_append, spelled.mark_length, padded_length] at lengths
  omega

theorem same_iff (named : instrument code = some (.hk number))
    (also : instrument other = some (.hk number))
    (chained : loader.name ∈ fallbackChain "hk_equity") :
    asked providers outside code loader = asked providers outside other loader ↔
      Alike outside code other loader := by
  obtain ⟨spelled, digits, least, most, value⟩ := spelled_hk named
  obtain ⟨spelled', digits', least', most', value'⟩ := spelled_hk also
  have filled : (codeBase code).points ≠ [] := fun none => by
    rw [none] at least
    cases least
  have filled' : (codeBase other).points ≠ [] := fun none => by
    rw [none] at least'
    cases least'
  cases loader with
  | eastmoney =>
    refine iff_of_true ?_ trivial
    rw [Eastmoney.asked_hk spelled digits filled most,
      Eastmoney.asked_hk spelled' digits' filled' most',
      ← value, ← value']
  | yahoo =>
    refine iff_of_true ?_ trivial
    rw [asked, asked, if_pos (Yahoo.isUsOrHk_hk spelled), if_pos (Yahoo.isUsOrHk_hk spelled'),
      Yahoo.mapSymbol_hk spelled digits most, Yahoo.mapSymbol_hk spelled' digits' most', ← value,
      ← value']
  | futu =>
    refine iff_of_true ?_ trivial
    rw [asked, asked, Futu.toFutuSymbol_hk spelled digits most,
      Futu.toFutuSymbol_hk spelled' digits' most', ← value, ← value']
  | yfinance =>
    rw [asked, asked, Yfinance.toYfinanceSymbol_hk spelled digits,
      Yfinance.toYfinanceSymbol_hk spelled' digits', ← value, ← value', Alike]
    constructor
    · intro same
      have lengths := congrArg (fun text => text.points.length) (List.singleton_inj.mp same)
      simp only [append_points, List.length_append, padded_length] at lengths
      omega
    · intro five
      have width : max 4 (codeBase code).points.length = max 4 (codeBase other).points.length := by
        omega
      rw [width]
  | akshare =>
    rw [Akshare.asked_hk named, Akshare.asked_hk also, List.singleton_inj, Alike]
    by_cases whole : codeSuffix code = ".HK"
    · by_cases whole' : codeSuffix other = ".HK"
      · simp [whole, whole']
      · rw [if_pos whole, if_neg whole']
        refine iff_of_false (padded_ne also number) ?_
        rintro (rfl | both)
        · exact whole' whole
        · exact whole' both.2
    · by_cases whole' : codeSuffix other = ".HK"
      · rw [if_neg whole, if_pos whole']
        refine iff_of_false (padded_ne named number).symm ?_
        rintro (rfl | both)
        · exact whole whole'
        · exact whole both.1
      · simp [whole, whole']
  | localFiles =>
    rw [asked, asked, spelled.clean, spelled'.clean, Alike]
    cases configured : outside.configured code with
    | true =>
      cases configured' : outside.configured other with
      | true => simp
      | false =>
        refine iff_of_false (by simp) ?_
        rintro (rfl | both)
        · rw [configured] at configured'
          cases configured'
        · cases both.1
    | false =>
      cases configured' : outside.configured other with
      | true =>
        refine iff_of_false (by simp) ?_
        rintro (rfl | both)
        · rw [configured] at configured'
          cases configured'
        · cases both.2
      | false => simp
  | tushare | okx | baostock | tencent | mootdx | ccxt | stooq | sina | finnhub | alphavantage
  | tiingo | fmp => exact absurd chained (by decide)

/-- A loader asks for the instrument itself exactly where it has a name of its own for the spelling,
and makes the same of two spellings of a number exactly where they are alike to it. -/
theorem symbols_agree_iff {thing : Instrument} (named : instrument code = some thing)
    (chained : loader.name ∈ fallbackChain thing.market) :
    ((∀ symbol ∈ asked providers outside code loader, Names loader thing symbol) ↔
        Known outside code loader thing) ∧
      ∀ number other, thing = .hk number → instrument other = some thing →
        (asked providers outside code loader = asked providers outside other loader ↔
          Alike outside code other loader) := by
  refine ⟨?_, fun number other hk also => ?_⟩
  · cases thing with
    | us ticker => exact names_us_iff named chained
    | hk number => exact names_hk_iff named chained
  · subst hk
    exact same_iff named also chained

def unlisted : Providers Unit where
  reading _ _ := ⟨false, 0⟩
  writing _ _ := ⟨false, 0⟩
  fails _ _ := none
  reply _ _ _ := none
  resample rows := rows
  isDigit _ := false
  symbolMarketMap _ := false
  failedCodes _ := false

def bare : Outside where
  answers _ := false
  secids := []
  search _ := none
  configured _ := false

omit [PyText] in
theorem yahoo_agrees :
    (@asked asciiText Unit unlisted bare "00700.HK" .yahoo =
        @asked asciiText Unit unlisted bare "700.hk" .yahoo ↔
      Alike bare "00700.HK" "700.hk" .yahoo) ∧
    ((∀ symbol ∈ @asked asciiText Unit unlisted bare "00700.HK" .yahoo,
        Names .yahoo (.hk 700) symbol) ↔
      @Known asciiText bare "00700.HK" .yahoo (.hk 700)) := by
  let text := asciiText
  have agree := (@symbols_agree_iff _ _ unlisted bare _ .yahoo _)
    (show instrument "00700.HK" = some (.hk 700) by decide +kernel) (by decide)
  exact ⟨agree.2 700 "700.hk" rfl (by decide +kernel), agree.1⟩

omit [PyText] in
theorem alphavantage_keeps_suffix :
    ¬ (∀ symbol ∈ @asked asciiText Unit unlisted bare "AAPL.US" .alphavantage,
        Names .alphavantage (.us "AAPL") symbol) ∧
      @asked asciiText Unit unlisted bare "00700.HK" .yfinance ≠
        @asked asciiText Unit unlisted bare "700.HK" .yfinance ∧
      ¬ (∀ symbol ∈ @asked asciiText Unit unlisted bare "700.hk" .akshare,
        Names .akshare (.hk 700) symbol) := by
  let text := asciiText
  refine ⟨fun own => ?_, by decide +kernel, fun own => ?_⟩
  · have first : Ascii.upper "AAPL.US" = "AAPL" := own "AAPL.US" (by decide +kernel)
    exact absurd first (by decide)
  · have first : ("700.hk" : PyString) = ⟨padded 5 700⟩ := own "700.hk" (by decide +kernel)
    exact absurd first (by decide)

end Agreement

end SynapseYield.Backtest
