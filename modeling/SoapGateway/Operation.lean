import SoapGateway.Request

/-!
# Operations

The methods of the remote service that the gateway offers. Each has a name, the element of the
answer that carries its result, the shape of its request and of its response, and a rule by which
results age in the cache.
-/
namespace SoapGateway

inductive AgeingPolicy where
  /-- A result is fetched again once it has the configured age. -/
  | ttl
  /-- A result stays until it is dropped. -/
  | snapshot
  deriving DecidableEq, Repr

def AgeingPolicy.label : AgeingPolicy → String
  | ttl => "Ttl"
  | snapshot => "Snapshot"

inductive Schema where
  /-- Rows of text: names of the response and of a row, the element of a row, and its fields. -/
  | listing (response row tag : String) (fields : List String)
  /-- The four headline indicators. -/
  | headline
  deriving DecidableEq, Repr

structure Descriptor where
  name : String
  target : String
  policy : AgeingPolicy
  request : RequestShape
  response : Schema
  deriving DecidableEq, Repr

inductive Operation where
  | cursOnDate | cursDynamic | enumValutes | keyRate | dragMetDynamic | newsInfo | swapDynamic
  | depoDynamic | ostatDynamic | ostatDepo | mrrf | mrrf7d | saldo | ruonia | roisFix | mkr | dv
  | repoDebt | coinsBase | fixingBase | overnight | bauction | swapDayTotal | swapMonthTotal
  | swapInfoSell | biCurBase | repoDebtUsd | biCurBacket | mainInfo
  deriving DecidableEq, Repr

namespace Operation

/-- All operations, in the order in which they are listed. -/
def all : List Operation :=
  [cursOnDate, cursDynamic, enumValutes, keyRate, dragMetDynamic, newsInfo, swapDynamic,
   depoDynamic, ostatDynamic, ostatDepo, mrrf, mrrf7d, saldo, ruonia, roisFix, mkr, dv, repoDebt,
   coinsBase, fixingBase, overnight, bauction, swapDayTotal, swapMonthTotal, swapInfoSell,
   biCurBase, repoDebtUsd, biCurBacket, mainInfo]

def descriptor : Operation → Descriptor
  | cursOnDate => ⟨"GetCursOnDateXML", "ValuteData", .ttl, .onDate,
      .listing "CursOnDateData" "ValuteCursOnDate" "ValuteCursOnDate"
        ["Vname", "Vnom", "Vcurs", "Vcode", "VchCode", "VunitRate"]⟩
  | cursDynamic => ⟨"GetCursDynamicXML", "ValuteData", .ttl, .currencyRange,
      .listing "CursDynamicData" "ValuteCursDynamic" "ValuteCursDynamic"
        ["CursDate", "Vcode", "Vnom", "Vcurs", "VunitRate"]⟩
  | enumValutes => ⟨"EnumValutesXML", "ValuteData", .ttl, .directory,
      .listing "EnumValutesData" "EnumValute" "EnumValutes"
        ["Vcode", "Vname", "VEngname", "Vnom", "VcommonCode", "VnumCode", "VcharCode"]⟩
  | keyRate => ⟨"KeyRateXML", "KeyRate", .ttl, .dateRange,
      .listing "KeyRateData" "KeyRateRow" "KR" ["DT", "Rate"]⟩
  | dragMetDynamic => ⟨"DragMetDynamicXML", "DragMetall", .ttl, .dateRange,
      .listing "DragMetallData" "DragMetRow" "DrgMet" ["DateMet", "CodMet", "price"]⟩
  | newsInfo => ⟨"NewsInfoXML", "NewsInfo", .ttl, .dateRange,
      .listing "NewsInfoData" "NewsRow" "News" ["Doc_id", "DocDate", "Title", "Url"]⟩
  | swapDynamic => ⟨"SwapDynamicXML", "SwapDynamic", .ttl, .dateRange,
      .listing "SwapDynamicData" "SwapRow" "Swap"
        ["DateBuy", "DateSell", "BaseRate", "SD", "TIR", "Stavka", "limit"]⟩
  | depoDynamic => ⟨"DepoDynamicXML", "DepoDynamic", .ttl, .dateRange,
      .listing "DepoDynamicData" "DepoRow" "Depo" ["DateDepo", "Overnight"]⟩
  | ostatDynamic => ⟨"OstatDynamicXML", "OstatDynamic", .ttl, .dateRange,
      .listing "OstatDynamicData" "OstatRow" "Ostat" ["DateOst", "InRuss", "InMoscow"]⟩
  | ostatDepo => ⟨"OstatDepoXML", "OD", .ttl, .dateRange,
      .listing "OstatDepoData" "OstatDepoRow" "odr" ["D0", "D1_7", "D8_30", "total"]⟩
  | mrrf => ⟨"MrrfXML", "mmrf", .ttl, .dateRange,
      .listing "MrrfData" "MrrfRow" "mr" ["D0", "p1", "p2", "p3", "p4", "p5", "p6"]⟩
  | mrrf7d => ⟨"Mrrf7DXML", "mmrf7d", .ttl, .dateRange,
      .listing "Mrrf7dData" "Mrrf7dRow" "mr" ["D0", "val"]⟩
  | saldo => ⟨"SaldoXML", "Saldo", .ttl, .dateRange,
      .listing "SaldoData" "SaldoRow" "So" ["Dt", "DEADLINEBS"]⟩
  | ruonia => ⟨"RuoniaXML", "Ruonia", .ttl, .dateRange,
      .listing "RuoniaData" "RuoniaRow" "ro" ["D0", "ruo", "vol", "DateUpdate"]⟩
  | roisFix => ⟨"ROISfixXML", "ROISfix", .ttl, .dateRange,
      .listing "RoisFixData" "RoisFixRow" "rf" ["D0", "R1W", "R2W", "R1M", "R2M", "R3M", "R6M"]⟩
  | mkr => ⟨"MKRXML", "mkr_base", .ttl, .dateRange,
      .listing "MkrData" "MkrRow" "MKR"
        ["CDate", "p1", "d1", "d7", "d30", "d90", "d180", "d360"]⟩
  | dv => ⟨"DVXML", "DV_base", .ttl, .dateRange,
      .listing "DvData" "DvRow" "DV"
        ["Date", "VOvern", "VLomb", "VIDay", "VOther", "Vol_Gold", "VIDate"]⟩
  | repoDebt => ⟨"Repo_debtXML", "Repo_debt", .ttl, .dateRange,
      .listing "RepoDebtData" "RepoDebtRow" "RD" ["Date", "debt", "debt_auc", "debt_fix"]⟩
  | coinsBase => ⟨"Coins_baseXML", "Coins_base", .ttl, .dateRange,
      .listing "CoinsBaseData" "CoinRow" "CB"
        ["date", "Cat_number", "name", "Metall", "nominal", "PriceBR", "PriceSR"]⟩
  | fixingBase => ⟨"FixingBaseXML", "FixingBase", .ttl, .dateRange,
      .listing "FixingBaseData" "FixingRow" "Fixing" ["D0", "Term", "Rate"]⟩
  | overnight => ⟨"OvernightXML", "Overnight", .ttl, .dateRange,
      .listing "OvernightData" "OvernightRow" "OB" ["date", "stavka"]⟩
  | bauction => ⟨"BauctionXML", "BAuction", .ttl, .dateRange,
      .listing "BauctionData" "BauctionRow" "BA" ["date", "Public_Name", "Sum", "Type", "Rate"]⟩
  | swapDayTotal => ⟨"SwapDayTotalXML", "SwapDayTotal", .ttl, .dateRange,
      .listing "SwapDayTotalData" "SwapDayTotalRow" "SDT" ["DT", "Swap"]⟩
  | swapMonthTotal => ⟨"SwapMonthTotalXML", "SwapMonthTotal", .ttl, .dateRange,
      .listing "SwapMonthTotalData" "SwapMonthTotalRow" "SMT" ["D0", "RUB", "USD"]⟩
  | swapInfoSell => ⟨"SwapInfoSellXML", "SwapInfoSell", .ttl, .dateRange,
      .listing "SwapInfoSellData" "SwapInfoSellRow" "SSU"
        ["Currency", "DateBuy", "DateSell", "DateSPOT", "Type", "BaseRate", "SD", "TIR", "Stavka",
         "limit"]⟩
  | biCurBase => ⟨"BiCurBaseXML", "BiCurBase", .ttl, .dateRange,
      .listing "BiCurBaseData" "BiCurBaseRow" "BCB" ["D0", "VAL"]⟩
  | repoDebtUsd => ⟨"RepoDebtUSDXML", "RepoDebtUSD", .ttl, .dateRange,
      .listing "RepoDebtUsdData" "RepoDebtUsdRow" "rd" ["D0", "TP"]⟩
  | biCurBacket => ⟨"BiCurBacketXML", "BiCurBacket", .snapshot, .empty,
      .listing "BiCurBacketData" "BiCurBacketRow" "BC" ["D0", "USD", "EUR"]⟩
  | mainInfo => ⟨"MainInfoXML", "RegData", .snapshot, .empty, .headline⟩

def name (o : Operation) : String := o.descriptor.name

def find? (name : String) : Option Operation := all.find? fun o => o.name == name

end Operation

end SoapGateway
