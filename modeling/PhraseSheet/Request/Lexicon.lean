import PhraseSheet.Sheet.Comparison
import PhraseSheet.Text.Case

/-! The vocabulary of requests. Vietnamese and English words stand here in folded form: without
diacritics, in lower case, with single spaces. A phrase has at most three words. -/

namespace PhraseSheet

/-- A column of a price list that requests and formulas speak of. -/
inductive Field where
  | retailPrice
  | costPrice
  | quantity
  | margin
  | profit
  | revenue
  | discount
  | tax
  | stock
  | sku
  | productName
  | category
deriving DecidableEq, Repr

namespace Field

def all : List Field :=
  [.retailPrice, .costPrice, .quantity, .margin, .profit, .revenue, .discount, .tax, .stock, .sku,
   .productName, .category]

theorem mem_all (field : Field) : field ∈ all := by
  cases field <;> simp [all]

def name : Field → String
  | .retailPrice => "retailPrice"
  | .costPrice => "costPrice"
  | .quantity => "quantity"
  | .margin => "margin"
  | .profit => "profit"
  | .revenue => "revenue"
  | .discount => "discount"
  | .tax => "tax"
  | .stock => "stock"
  | .sku => "sku"
  | .productName => "productName"
  | .category => "category"

/-- The phrases that mean the field, besides its name. -/
def phrases : Field → List String
  | .retailPrice =>
    ["gia", "gia ban", "gia ban le", "gia le", "don gia", "retail", "retail price", "price",
     "selling price", "sale price"]
  | .costPrice =>
    ["von", "gia von", "gia nhap", "gia goc", "gia mua", "cost", "cost price", "purchase price"]
  | .quantity => ["so luong", "sl", "so luong ban", "quantity", "qty", "amount"]
  | .margin =>
    ["margin", "bien loi nhuan", "bien lai", "ty suat", "ti suat", "ty suat lai", "profit margin"]
  | .profit => ["loi nhuan", "lai", "tien lai", "loi nhuan gop", "profit"]
  | .revenue => ["doanh thu", "doanh so", "revenue", "sales"]
  | .discount => ["giam gia", "chiet khau", "khuyen mai", "discount"]
  | .tax => ["thue", "thue vat", "vat", "tax"]
  | .stock => ["ton kho", "hang ton", "stock", "inventory"]
  | .sku => ["sku", "ma sp", "ma hang", "ma san pham", "product code"]
  | .productName => ["ten sp", "ten hang", "ten san pham", "product name", "product"]
  | .category => ["loai", "danh muc", "nhom hang", "loai san pham", "category"]

/-- The field that a folded phrase means; the name of a field in lower case means it too. -/
def ofPhrase? (phrase : String) : Option Field :=
  all.find? fun field => Text.lowered field.name == phrase || field.phrases.contains phrase

end Field

/-- What a request wants done with its operands. -/
inductive Operation where
  | sum
  | average
  | add
  | subtract
  | multiply
  | divide
  | min
  | max
  | count
  | percent
  | round
deriving DecidableEq, Repr

namespace Operation

def all : List Operation :=
  [.sum, .average, .add, .subtract, .multiply, .divide, .min, .max, .count, .percent, .round]

theorem mem_all (operation : Operation) : operation ∈ all := by
  cases operation <;> simp [all]

/-- The name of the operation; where a function of formulas does the same, it has this name. -/
def name : Operation → String
  | .sum => "SUM"
  | .average => "AVERAGE"
  | .add => "ADD"
  | .subtract => "SUBTRACT"
  | .multiply => "MULTIPLY"
  | .divide => "DIVIDE"
  | .min => "MIN"
  | .max => "MAX"
  | .count => "COUNT"
  | .percent => "PERCENT"
  | .round => "ROUND"

/-- The sign that formulas write between two operands. -/
def sign? : Operation → Option String
  | .add => some "+"
  | .subtract => some "-"
  | .multiply => some "*"
  | .divide => some "/"
  | .sum | .average | .min | .max | .count | .percent | .round => none

/-- The phrases and signs that mean the operation. -/
def phrases : Operation → List String
  | .sum => ["tong", "tong cong", "sum", "total"]
  | .average => ["trung binh", "binh quan", "average", "avg", "mean"]
  | .add => ["cong", "cong voi", "cong them", "add", "plus", "+"]
  | .subtract => ["tru", "tru di", "subtract", "minus", "-"]
  | .multiply => ["nhan", "nhan voi", "multiply", "times", "*", "x", "×"]
  | .divide => ["chia", "chia cho", "divide", "divided by", "/", "÷"]
  | .min => ["nho nhat", "thap nhat", "re nhat", "min", "minimum"]
  | .max => ["lon nhat", "cao nhat", "dat nhat", "max", "maximum"]
  | .count => ["dem", "dem so", "count"]
  | .percent => ["phan tram", "ty le", "ti le", "percent", "percentage"]
  | .round => ["lam tron", "round"]

def ofPhrase? (phrase : String) : Option Operation :=
  all.find? fun operation => operation.phrases.contains phrase

def ofName? (name : String) : Option Operation :=
  all.find? fun operation => operation.name == name

end Operation

namespace Comparison

def all : List Comparison := [.greaterOrEqual, .lessOrEqual, .notEqual, .greater, .less, .equal]

theorem mem_all (comparison : Comparison) : comparison ∈ all := by
  cases comparison <;> simp [all]

/-- The phrases and signs that mean the comparison. -/
def phrases : Comparison → List String
  | .greaterOrEqual => [">=", "it nhat", "toi thieu", "at least", "khong duoi"]
  | .lessOrEqual => ["<=", "toi da", "at most", "khong qua", "khong vuot"]
  | .notEqual => ["<>", "!=", "khac", "khac voi"]
  | .greater => [">", "lon hon", "cao hon", "nhieu hon", "vuot", "tren", "greater than"]
  | .less => ["<", "nho hon", "thap hon", "it hon", "duoi", "less than"]
  | .equal => ["=", "==", "bang", "equals"]

def ofPhrase? (phrase : String) : Option Comparison :=
  all.find? fun comparison => comparison.phrases.contains phrase

def ofSymbol? (symbol : String) : Option Comparison :=
  all.find? fun comparison => comparison.symbol == symbol

end Comparison

/-- A word that joins or denies conditions. -/
inductive Connective where
  | and
  | or
  | not
deriving DecidableEq, Repr

namespace Connective

def all : List Connective := [.and, .or, .not]

def name : Connective → String
  | .and => "AND"
  | .or => "OR"
  | .not => "NOT"

def phrases : Connective → List String
  | .and => ["va", "and"]
  | .or => ["hoac", "or"]
  | .not => ["khong", "not"]

def ofPhrase? (phrase : String) : Option Connective :=
  all.find? fun connective => connective.phrases.contains phrase

end Connective

end PhraseSheet
