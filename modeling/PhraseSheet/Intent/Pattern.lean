import PhraseSheet.Intent.Cue
import PhraseSheet.Intent.Goal
import PhraseSheet.Request.Basic

namespace PhraseSheet

/-- How requests for one goal look. -/
structure Pattern where
  goal : Goal
  cues : List Cue
  /-- The phrases of the request hold what the calculation needs. -/
  isSupported : Request → Bool
  description : String

namespace Request

def names (request : Request) (field : Field) : Bool := request.fields.contains field

def namesField (request : Request) : Bool := !request.fields.isEmpty

end Request

namespace Pattern

def pricePair (request : Request) : Bool := request.names .retailPrice && request.names .costPrice

def pricePairOrMargin (request : Request) : Bool := pricePair request || request.names .margin

def profitInput (request : Request) : Bool :=
  [Field.profit, .retailPrice, .costPrice, .quantity].any request.names

def revenueInput (request : Request) : Bool :=
  request.names .revenue || request.names .retailPrice && request.names .quantity

def number (request : Request) : Bool := !request.numbers.isEmpty

def rangeOrField (request : Request) : Bool := !request.ranges.isEmpty || request.namesField

def comparison (request : Request) : Bool := !request.comparisons.isEmpty

/-- A range of cells or a word for all of them. -/
def wholeRange : Cue :=
  .either .range (.anyOf ["tat ca", "toan bo", "cot", "column", "all"])

def percent : Cue := .either .percentage (.anyOf ["phan tram", "percent"])

/-- The patterns; of equally sure ones the first counts. -/
def catalog : List Pattern :=
  [{ goal := .margin
     cues :=
      [.anyOf ["margin", "bien loi nhuan", "bien lai", "ty suat loi nhuan", "ti suat loi nhuan"],
       .anyOf ["phan tram", "ty le", "ti le", "percent"]]
     isSupported := pricePairOrMargin
     description := "Tính biên lợi nhuận" },
   { goal := .markup
     cues :=
      [.anyOf ["markup", "mark up", "lai tren von", "loi nhuan tren von"],
       .anyOf ["tren von", "tren gia von"]]
     isSupported := pricePair
     description := "Tính tỷ lệ lãi trên giá vốn" },
   { goal := .profit
     cues :=
      [.anyOf ["loi nhuan", "profit", "tien lai", "lai"],
       .anyOf ["so luong", "quantity", "qty", "tong"]]
     isSupported := profitInput
     description := "Tính lợi nhuận" },
   { goal := .revenue
     cues :=
      [.anyOf ["doanh thu", "doanh so", "revenue", "sales"],
       .together ["gia ban", "gia", "price"] ["so luong", "quantity", "qty"]]
     isSupported := revenueInput
     description := "Tính doanh thu" },
   { goal := .discount
     cues := [.anyOf ["giam gia", "chiet khau", "khuyen mai", "discount", "sale off"], percent]
     isSupported := number
     description := "Tính giá sau giảm giá" },
   { goal := .tax
     cues := [.anyOf ["thue", "tax", "vat"], percent]
     isSupported := number
     description := "Tính thuế" },
   { goal := .sum
     cues :=
      [.anyOf ["tong", "tong cong", "sum", "total", "cong tat ca", "cong het"], wholeRange]
     isSupported := rangeOrField
     description := "Tính tổng" },
   { goal := .average
     cues := [.anyOf ["trung binh", "binh quan", "average", "avg", "mean"], wholeRange]
     isSupported := rangeOrField
     description := "Tính trung bình" },
   { goal := .count
     cues :=
      [.anyOf ["dem", "count", "so luong san pham", "so luong mat hang", "so luong dong"],
       .anyOf ["bao nhieu", "how many", "tat ca"]]
     isSupported := fun _ => false
     description := "Đếm số mục" },
   { goal := .least
     cues := [.anyOf ["nho nhat", "thap nhat", "re nhat", "min", "minimum"], wholeRange]
     isSupported := rangeOrField
     description := "Tìm giá trị nhỏ nhất" },
   { goal := .greatest
     cues := [.anyOf ["lon nhat", "cao nhat", "dat nhat", "max", "maximum"], wholeRange]
     isSupported := rangeOrField
     description := "Tìm giá trị lớn nhất" },
   { goal := .conditional
     cues :=
      [.anyOf ["neu", "if", "khi", "truong hop"],
       .either .comparisonSign
        (.anyOf ["lon hon", "nho hon", "bang", "it nhat", "toi da", "toi thieu", "vuot", "duoi"])]
     isSupported := comparison
     description := "Công thức điều kiện" },
   { goal := .lookup
     cues :=
      [.anyOf ["tim", "tra cuu", "tim kiem", "lookup", "vlookup"],
       .anyOf ["sku", "ma sp", "ma hang", "ma san pham"]]
     isSupported := fun request => request.names .sku
     description := "Tra cứu thông tin sản phẩm" }]

/-- What each cue that appears adds. -/
def cueWeight : Float := 0.4

/-- What the needs of the calculation add if they are met. -/
def supportBonus : Float := 0.2

/-- What the mention of any field adds. -/
def fieldBonus : Float := 0.2

/-- The number held between zero and one. -/
def clamped (x : Float) : Float := if x < 0 then 0 else if 1 < x then 1 else x

/-- The confidence that so many cues give, which is none without a cue. -/
def confidence? (cues : Nat) (isSupported namesField : Bool) : Option Float :=
  if cues = 0 then none
  else
    let weight := Float.ofNat cues * cueWeight
    let supported := if isSupported then weight + supportBonus else weight
    some (clamped (if namesField then supported + fieldBonus else supported))

/-- The number of cues that the text of the request or its folded form contains. -/
def cueCount (pattern : Pattern) (request : Request) : Nat :=
  pattern.cues.countP fun cue =>
    cue.appearsIn request.text.toList || cue.appearsIn request.folded.toList

/-- The confidence that the request follows the pattern; none without a cue. -/
def score? (pattern : Pattern) (request : Request) : Option Float :=
  confidence? (pattern.cueCount request) (pattern.isSupported request) request.namesField

end Pattern

end PhraseSheet
