import PhraseSheet.Request.Lexicon
import PhraseSheet.Text.Fold

namespace PhraseSheet.Field

/-- The headers that stand for a field, folded and without all that is no letter or numeral. -/
def headers : Field → List String
  | .retailPrice =>
    ["retailprice", "price", "sellingprice", "saleprice", "gia", "giaban", "giabanle", "dongia"]
  | .costPrice => ["costprice", "cost", "giavon", "von", "gianhap", "giagoc"]
  | .quantity => ["quantity", "qty", "soluong", "sl"]
  | .margin => ["margin", "bienloinhuan", "tysuatloinhuan", "tisuatloinhuan"]
  | .profit | .revenue | .discount | .tax | .stock | .sku | .productName | .category => []

/-- The field that a header stands for. -/
def ofHeader? (header : String) : Option Field :=
  let key := Text.foldedKey header
  all.find? fun field => field.headers.contains key

end PhraseSheet.Field
