import PhraseSheet.Formula.Evaluate
import PhraseSheet.Proofs.WorkingContext

namespace PhraseSheet

namespace Registry

/-- The built-in functions under their names in upper case. -/
private def listing : List (String × Function) :=
  Function.builtins.map fun function => (Text.uppered function.name, function)

private theorem standard_eq : standard = Labelled.empty.putAll listing := by
  rw [standard, listing, Labelled.putAll, List.foldl_map]
  rfl

private theorem nodup_listing : (listing.map Prod.fst).Nodup := by
  decide +kernel

private theorem function?_eq_lookup (name : String) :
    standard.function? name = listing.lookup (Text.uppered name) := by
  rw [function?, standard_eq, Labelled.find?_putAll_of_nodup nodup_listing]
  exact Option.or_none

theorem function?_name {function : Function} (listed : function ∈ Function.builtins) :
    standard.function? function.name = some function := by
  have member : (Text.uppered function.name, function) ∈ listing :=
    List.mem_map.mpr ⟨function, listed, rfl⟩
  rw [function?_eq_lookup]
  exact @Labelled.find?_of_mem _ ⟨listing, nodup_listing⟩ _ _ member

private theorem uppered_name : ∀ function ∈ Function.builtins,
    Text.uppered function.name = function.name := by
  decide +kernel

/-- The function found under a name is the built-in one that has this name in upper case. -/
theorem function?_eq_some_iff {name : String} {function : Function} :
    standard.function? name = some function ↔
      function ∈ Function.builtins ∧ function.name = Text.uppered name := by
  constructor
  · intro found
    rw [function?_eq_lookup] at found
    have member := @Labelled.mem_of_find? _ ⟨listing, nodup_listing⟩ _ _ found
    obtain ⟨own, listed, same⟩ := List.mem_map.mp member
    obtain ⟨named, rfl⟩ := Prod.mk.inj same
    exact ⟨listed, (uppered_name own listed).symm.trans named⟩
  · rintro ⟨listed, named⟩
    rw [function?_eq_lookup, ← named, ← uppered_name function listed, ← function?_eq_lookup]
    exact function?_name listed

end Registry

namespace Function

theorem accepts_iff {function : Function} {count : Nat} :
    function.accepts count ↔ function.least ≤ count ∧ ∀ most ∈ function.most, count ≤ most := by
  cases most : function.most <;> simp [accepts, most]

/-- A call gives what the function of that name gives, on as many arguments as it takes. -/
theorem call_of_function? {name : String} {function : Function} {arguments : List Value}
    (found : Registry.standard.function? name = some function)
    (accepted : function.accepts arguments.length) :
    call name arguments = function.apply arguments := by
  obtain ⟨enough, few⟩ := accepts_iff.mp accepted
  rw [call, found]
  dsimp only
  rw [if_neg (Nat.not_lt.mpr enough)]
  cases limit : function.most with
  | none => rfl
  | some most => exact if_neg (Nat.not_lt.mpr (few most limit))

theorem call_of_accepts {function : Function} (listed : function ∈ builtins)
    {arguments : List Value} (accepted : function.accepts arguments.length) :
    call function.name arguments = function.apply arguments :=
  call_of_function? (Registry.function?_name listed) accepted

end Function

end PhraseSheet
