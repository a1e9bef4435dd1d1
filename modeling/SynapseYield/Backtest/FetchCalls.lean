import SynapseYield.Backtest.Loaders
import SynapseYield.Shared.Program

set_option autoImplicit false

-- The data stage of main, with the fetch methods that it calls.
namespace SynapseYield.Backtest

open Shared

structure FetchCall where
  loader : PyString
  request : Request
deriving DecidableEq

structure FetchLog where
  calls : List FetchCall := []
  -- The symbols that the warning of main names.
  missing : List PyString := []

abbrev Fetching := EStateM PyError FetchLog

namespace Fetching

variable {Frame : Type}

def fetch (name : PyString) (loader : Loader Frame) (request : Request) :
    Fetching (DataMap Frame) := do
  modify fun log => { log with calls := log.calls ++ [⟨name, request⟩] }
  liftExcept (loader.fetch request)

def runtimeFallback (loaders : Loaders Frame) (skipped : PyString) (ask : PyString → Request) :
    List PyString → Fetching (DataMap Frame × Option PyString)
  | [] => pure ([], none)
  | fbName :: rest =>
    if fbName = skipped ∨ (loaders.registry fbName).isNone then runtimeFallback loaders skipped ask rest
    else do
      let fbLoader ← liftExcept (construct loaders fbName)
      if ! fbLoader.isAvailable then runtimeFallback loaders skipped ask rest
      else do
        let result ← fetch fbName fbLoader (ask fbName)
        if result.isEmpty then runtimeFallback loaders skipped ask rest
        else pure (result, some fbName)

variable [PyText] (loaders : Loaders Frame) (config : BacktestConfig)

def fetchGroup (market : PyString) (marketCodes : List PyString) : Fetching (DataMap Frame) := do
  match primarySource loaders market with
  | none => throw .other
  | some srcName => do
    let loader ← liftExcept (construct loaders srcName)
    let result ← fetch srcName loader (autoRequest config marketCodes srcName srcName)
    if result.isEmpty then do
      let (result, _) ← runtimeFallback loaders srcName (autoRequest config marketCodes srcName)
        (fallbackChain market)
      pure result
    else pure result

def fetchAuto : Fetching (DataMap Frame) :=
  (groupCodesByMarket loaders config.codes).foldlM (fun merged group => do
    let result ← fetchGroup loaders config group.1 group.2
    pure (update merged result)) []

-- source=... returned data for .../... symbols; missing: ...
def warnMissing (codes : List PyString) (dataMap : DataMap Frame) : Fetching Unit :=
  if ! dataMap.isEmpty && dataMap.length < codes.length then
    modify fun log =>
      { log with missing := log.missing ++ codes.filter (· ∉ dataMap.map Prod.fst) }
  else pure ()

def fetchSingle : Fetching (DataMap Frame × PyString) := do
  let codes := normalizeCodes config.codes config.source
  match getLoader loaders config.source with
  | none => throw .other
  | some name => do
    let loader ← liftExcept (construct loaders name)
    let dataMap ← fetch name loader (singleRequest config config.source)
    warnMissing codes dataMap
    match codes with
    | [] => pure (dataMap, config.source)
    | code :: _ =>
      if dataMap.isEmpty && ! auditExplicitLocal config.source codes then do
        let (dataMap, served) ← runtimeFallback loaders config.source (singleRequest config)
          (fallbackChain (loaders.detectMarket code))
        pure (dataMap, served.getD config.source)
      else pure (dataMap, config.source)

-- data_map, as the engine gets it; none where main prints that no data was fetched.
def main (validateOhlc : Frame → Frame) : Fetching (Option (DataMap Frame)) := do
  let dataMap ← if config.source = "auto" then fetchAuto loaders config
    else do
      let (dataMap, _) ← fetchSingle loaders config
      pure dataMap
  let sanitized := dataMap.map fun entry => (entry.1, validateOhlc entry.2)
  if sanitized.isEmpty then pure none else pure (some sanitized)

end Fetching

end SynapseYield.Backtest
