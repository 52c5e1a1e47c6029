import PhraseSheet.Intent.Goal
import PhraseSheet.Request.Lexicon
import PhraseSheet.Template.Basic

namespace PhraseSheet

/-- The template for a goal. -/
structure Recipe where
  goal : Goal
  template : Template
  /-- The fields that a request should name. -/
  required : List Field
  description : String

namespace Recipe

def retailSlot : Segment := .slot Field.retailPrice.name

def costSlot : Segment := .slot Field.costPrice.name

def quantitySlot : Segment := .slot Field.quantity.name

def rangeSlot : Segment := .slot "range"

def numberSlot : Segment := .slot "number"

def onRange (function : String) : Template :=
  ⟨[.literal ("=" ++ function ++ "("), rangeSlot, .literal ")"]⟩

/-- The templates in the order in which they are listed. -/
def catalog : List Recipe :=
  [{ goal := .margin
     template :=
      ⟨[.literal "=(", retailSlot, .literal "-", costSlot, .literal ")/", retailSlot,
        .literal "*100"]⟩
     required := [.retailPrice, .costPrice]
     description := "Biên lợi nhuận (%) = (giá bán - giá vốn) / giá bán × 100" },
   { goal := .markup
     template :=
      ⟨[.literal "=(", retailSlot, .literal "-", costSlot, .literal ")/", costSlot,
        .literal "*100"]⟩
     required := [.retailPrice, .costPrice]
     description := "Tỷ lệ lãi trên vốn (%) = (giá bán - giá vốn) / giá vốn × 100" },
   { goal := .profit
     template :=
      ⟨[.literal "=(", retailSlot, .literal "-", costSlot, .literal ")*", quantitySlot]⟩
     required := [.retailPrice, .costPrice, .quantity]
     description := "Lợi nhuận = (giá bán - giá vốn) × số lượng" },
   { goal := .revenue
     template := ⟨[.literal "=", retailSlot, .literal "*", quantitySlot]⟩
     required := [.retailPrice, .quantity]
     description := "Doanh thu = giá bán × số lượng" },
   { goal := .discount
     template := ⟨[.literal "=", retailSlot, .literal "*(1-", numberSlot, .literal "/100)"]⟩
     required := [.retailPrice]
     description := "Giá sau giảm = giá bán × (1 - phần trăm giảm / 100)" },
   { goal := .tax
     template := ⟨[.literal "=", retailSlot, .literal "*", numberSlot, .literal "/100"]⟩
     required := [.retailPrice]
     description := "Tiền thuế = giá bán × thuế suất / 100" },
   { goal := .sum
     template := onRange "SUM"
     required := []
     description := "Tổng các giá trị trong vùng" },
   { goal := .average
     template := onRange "AVERAGE"
     required := []
     description := "Trung bình các giá trị trong vùng" },
   { goal := .count
     template := onRange "COUNT"
     required := []
     description := "Đếm số ô có giá trị số trong vùng" },
   { goal := .least
     template := onRange "MIN"
     required := []
     description := "Giá trị nhỏ nhất trong vùng" },
   { goal := .greatest
     template := onRange "MAX"
     required := []
     description := "Giá trị lớn nhất trong vùng" },
   { goal := .conditional
     template :=
      ⟨[.literal "=IF(", .slot "condition", .literal ",", .slot "trueValue", .literal ",",
        .slot "falseValue", .literal ")"]⟩
     required := []
     description := "Trả về giá trị theo điều kiện" },
   { goal := .lookup
     template :=
      ⟨[.literal "=VLOOKUP(", .slot Field.sku.name, .literal ",", rangeSlot, .literal ",2,FALSE)"]⟩
     required := [.sku]
     description := "Tra cứu theo mã sản phẩm" }]

/-- The template for a goal; own formulas and unknown goals have none. -/
def ofGoal? (goal : Goal) : Option Recipe := catalog.find? fun recipe => recipe.goal = goal

end Recipe

end PhraseSheet
