import SynapseYield.Shared.Python

set_option autoImplicit false

namespace SynapseYield.Live

open Shared

def mandateSchemaVersion : Int := 1

inductive InstrumentType where
  | equity
  | etf
  | option
  | crypto
deriving DecidableEq, Repr

def InstrumentType.value : InstrumentType → PyString
  | .equity => "equity"
  | .etf => "etf"
  | .option => "option"
  | .crypto => "crypto"

def InstrumentType.all : List InstrumentType := [.equity, .etf, .option, .crypto]

inductive AssetClass where
  | usEquity
  | usEtf
  | hkEquity
  | cnEquity
  | crypto
deriving DecidableEq, Repr

def AssetClass.value : AssetClass → PyString
  | .usEquity => "us_equity"
  | .usEtf => "us_etf"
  | .hkEquity => "hk_equity"
  | .cnEquity => "cn_equity"
  | .crypto => "crypto"

def AssetClass.all : List AssetClass := [.usEquity, .usEtf, .hkEquity, .cnEquity, .crypto]

structure HardCaps where
  accountFundingUsd : Number
  maxOrderNotionalUsd : Number
  maxTotalExposureUsd : Number
  maxLeverage : Number
  allowedInstruments : List InstrumentType
  maxTradesPerDay : Int

structure UniverseConstraint where
  assetClasses : List AssetClass
  minMarketCapUsd : Option Number
  minAvgDailyVolumeUsd : Option Number
  excludeSymbols : List PyString

structure ConsentMeta where
  createdAt : PyString
  consentTokenSha256 : PyString
  broker : PyString
  accountRef : PyString
  expiresAt : PyString

structure Mandate where
  schemaVersion : Int
  hardCaps : HardCaps
  universeConstraint : UniverseConstraint
  consent : ConsentMeta
  flattenOnHalt : Bool := false

structure OrderIntent where
  symbol : PyString
  side : PyString
  notionalUsd : Option Number
  quantity : Option Number
  instrumentType : InstrumentType
  assetClass : Option AssetClass := none
deriving DecidableEq, Repr

-- The asset class of an instrument whose market is not known. An option has none.
def instrumentAssetClass : InstrumentType → Option AssetClass
  | .equity => some .usEquity
  | .etf => some .usEtf
  | .crypto => some .crypto
  | .option => none

def OrderIntent.bucket (intent : OrderIntent) : Option AssetClass :=
  intent.assetClass.orElse fun _ => instrumentAssetClass intent.instrumentType

end SynapseYield.Live
