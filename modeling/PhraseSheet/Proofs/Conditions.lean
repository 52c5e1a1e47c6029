import PhraseSheet.Proofs.Calls

namespace PhraseSheet

namespace Value

/-- A condition takes account of the value: it is a truth value, a number or an error. -/
def isWeighed : Value → Bool
  | .boolean _ | .number _ | .error _ => true
  | .text _ | .array _ | .empty => false

end Value

namespace Function

/-- The argument with every value negated, in a table cell by cell. -/
def eachNegated : Value → Value
  | .array rows => .array (rows.map fun row => row.map fun cell => not [cell])
  | value => not [value]

theorem eachNegated_of_scalar {value : Value} (scalar : value.isArray = false) :
    eachNegated value = not [value] := by
  cases value with
  | array rows => cases scalar
  | _ => rfl

theorem scalars_cons (argument : Value) (rest : List Value) :
    scalars (argument :: rest) = scalars [argument] ++ scalars rest := by
  rw [scalars, scalars, scalars, List.flatMap_cons, List.flatMap_singleton]

theorem scalars_of_scalar {value : Value} (scalar : value.isArray = false) :
    scalars [value] = [value] := by
  cases value with
  | array rows => cases scalar
  | _ => rfl

theorem isArray_not (arguments : List Value) : (not arguments).isArray = false := by
  unfold not
  split
  · rfl
  · rfl
  · split <;> rfl

theorem scalars_eachNegated (arguments : List Value) :
    scalars (arguments.map eachNegated) = (scalars arguments).map fun value => not [value] := by
  induction arguments with
  | nil => rfl
  | cons argument rest ih =>
    rw [List.map_cons, scalars_cons, ih, scalars_cons argument, List.map_append]
    congr 1
    cases scalar : argument.isArray with
    | false =>
      rw [eachNegated_of_scalar scalar, scalars_of_scalar (isArray_not _),
        scalars_of_scalar scalar, List.map_singleton]
    | true =>
      cases argument with
      | array rows => simp [scalars, eachNegated, List.map_flatten]
      | _ => cases scalar

/-- A value decides for the one side just if its negation decides for the other. -/
theorem decided_negated {values : List Value} (weighed : ∀ value ∈ values, value.isWeighed)
    (deciding : Bool) :
    decided deciding values =
      not [decided (!deciding) (values.map fun value => not [value])] := by
  induction values with
  | nil => cases deciding <;> rfl
  | cons value rest ih =>
    obtain ⟨here, later⟩ := List.forall_mem_cons.mp weighed
    have truth : ∀ truth : Bool, decided deciding (.boolean truth :: rest) =
        not [decided (!deciding) (.boolean (!truth) :: rest.map fun value => not [value])] := by
      intro truth
      cases truth <;> cases deciding
      all_goals first | rfl | exact ih later
    cases value with
    | boolean decides => exact truth decides
    | number x => exact truth (x != 0)
    | error cause => rfl
    | text content => cases here
    | array rows => cases here
    | empty => cases here

/-- Values of other kinds change nothing, wherever they stand. -/
theorem decided_filter (deciding : Bool) (values : List Value) :
    decided deciding (values.filter Value.isWeighed) = decided deciding values := by
  induction values with
  | nil => rfl
  | cons value rest ih =>
    cases value with
    | boolean truth =>
      change decided deciding (.boolean truth :: rest.filter Value.isWeighed) = _
      rw [decided, decided, ih]
    | number x =>
      change decided deciding (.number x :: rest.filter Value.isWeighed) = _
      rw [decided, decided, ih]
    | error cause => rfl
    | text content => exact ih
    | array rows => exact ih
    | empty => exact ih

theorem call_and {arguments : List Value} (any : arguments ≠ []) :
    call "AND" arguments = .ok (decided false (scalars arguments)) := by
  have listed : ⟨"AND", 1, none, unfailing all⟩ ∈ builtins := by simp [builtins]
  exact call_of_accepts listed (accepts_iff.mpr ⟨List.length_pos_iff.mpr any, nofun⟩)

theorem call_or {arguments : List Value} (any : arguments ≠ []) :
    call "OR" arguments = .ok (decided true (scalars arguments)) := by
  have listed : ⟨"OR", 1, none, unfailing Function.any⟩ ∈ builtins := by simp [builtins]
  exact call_of_accepts listed (accepts_iff.mpr ⟨List.length_pos_iff.mpr any, nofun⟩)

/-- On truth values, numbers and errors, as they stand or in tables, AND gives the negation of what OR
gives of their negations, and OR that of AND. Both give the same of all arguments with these values in
this order, whatever texts, empty values and tables in tables stand among them. -/
theorem call_and_eq_not {arguments : List Value} (any : arguments ≠ [])
    (weighed : ∀ value ∈ scalars arguments, value.isWeighed) :
    (∃ opposite, call "OR" (arguments.map eachNegated) = .ok opposite ∧
      call "AND" arguments = .ok (not [opposite])) ∧
    (∃ opposite, call "AND" (arguments.map eachNegated) = .ok opposite ∧
      call "OR" arguments = .ok (not [opposite])) ∧
    ∀ padded, padded ≠ [] → (scalars padded).filter Value.isWeighed = scalars arguments →
      call "AND" padded = call "AND" arguments ∧ call "OR" padded = call "OR" arguments := by
  have anyNegated : arguments.map eachNegated ≠ [] := by simpa using any
  refine ⟨⟨_, call_or anyNegated, ?conjunction⟩, ⟨_, call_and anyNegated, ?disjunction⟩, ?padded⟩
  case conjunction => rw [call_and any, scalars_eachNegated, decided_negated weighed, Bool.not_false]
  case disjunction => rw [call_or any, scalars_eachNegated, decided_negated weighed, Bool.not_true]
  case padded =>
    intro padded anyPadded same
    rw [call_and any, call_and anyPadded, call_or any, call_or anyPadded, ← same, decided_filter,
      decided_filter]
    exact ⟨rfl, rfl⟩

/-- An error in front of the deciding value, in a table with texts around. -/
theorem call_and_eq_not_error :
    let arguments : List Value := [.number 2, .array [[.error .badReference, .boolean false]]]
    let padded : List Value :=
      [.text "net", .array [[.number 2], [.empty, .error .badReference, .boolean false, .text "x"]]]
    call "AND" arguments = .ok (.error .badReference) ∧
      call "OR" (arguments.map eachNegated) = .ok (.error .badReference) ∧
      call "AND" padded = .ok (.error .badReference) := by
  intro arguments padded
  have weighed : ∀ value ∈ scalars arguments, value.isWeighed := by
    change ∀ value ∈ [Value.number 2, .error .badReference, .boolean false], value.isWeighed
    simp [Value.isWeighed]
  obtain ⟨⟨opposite, negated, conjunction⟩, _, same⟩ := call_and_eq_not (by simp [arguments]) weighed
  have first : opposite = .error .badReference := by
    rw [call_or (by simp [arguments])] at negated
    exact (Except.ok.inj negated).symm
  subst first
  refine ⟨conjunction, negated, ?_⟩
  rw [(same padded (by simp [padded]) rfl).1]
  exact conjunction

end Function

end PhraseSheet
