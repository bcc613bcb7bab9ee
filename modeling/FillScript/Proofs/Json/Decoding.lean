import FillScript.Json.Decode
import FillScript.Proofs.Json.Reading

/-!
# What decoders do

The parts that decoders are made of. A property of the fields of a record that every entry keeps
holds when the whole object was gone through (`foldEntries_preserves`), and a property of all that a
decoder can give holds of every element of a list that it decoded (`forall_of_asListOf`). Text made
from data is decoded as the data it was made from (`decodeText_pretty`).
-/

namespace FillScript.Json

theorem bind_eq_ok {ε α β : Type} {x : Except ε α} {f : α → Except ε β} {b : β} :
    (x >>= f) = .ok b ↔ ∃ a, x = .ok a ∧ f a = .ok b := by
  cases x <;> simp [bind, Except.bind]

/-! ## Records -/

theorem foldEntries_cons_eq_ok {σ : Type} {onEntry : σ → String → Json → Except ReadError σ}
    {key : String} {value : Json} {entries : List (Option String × Json)} {state state' : σ} :
    foldEntries onEntry state ((some key, value) :: entries) = .ok state' ↔
      ∃ next, onEntry state key value = .ok next ∧
        foldEntries onEntry next entries = .ok state' := by
  rw [foldEntries]
  cases onEntry state key value <;> simp

/-- What every entry keeps holds of the fields after all of them. -/
theorem foldEntries_preserves {σ : Type} {P : σ → Prop}
    {onEntry : σ → String → Json → Except ReadError σ}
    (hentry : ∀ {state key value state'}, P state → onEntry state key value = .ok state' → P state')
    {entries : List (Option String × Json)} {state state' : σ} (hstate : P state)
    (hfold : foldEntries onEntry state entries = .ok state') : P state' := by
  induction entries generalizing state with
  | nil =>
    obtain rfl : state = state' := by simpa [foldEntries] using hfold
    exact hstate
  | cons entry entries ih =>
    obtain ⟨key, value⟩ := entry
    cases key with
    | none => simp [foldEntries] at hfold
    | some key =>
      obtain ⟨next, hnext, hrest⟩ := foldEntries_cons_eq_ok.1 hfold
      exact ih (hentry hstate hnext) hrest

/-- A field is filled with what was decoded for it. -/
theorem fillOnce_eq_ok {α : Type} {field field' : Option α} {value : Except ReadError α}
    (hfill : fillOnce field value = .ok field') : ∃ a, value = .ok a ∧ field' = some a := by
  cases field with
  | some a => simp [fillOnce] at hfill
  | none =>
    cases value with
    | error e => simp [fillOnce, Except.map] at hfill
    | ok a =>
      refine ⟨a, rfl, ?_⟩
      simpa [fillOnce, Except.map, eq_comm] using hfill

/-- An entry of a record with two fields, of which either may come first and neither twice. -/
def pairEntry {α β : Type} (first second : String) (f : Json → Except ReadError α)
    (g : Json → Except ReadError β) (fields : Option α × Option β) (key : String) (json : Json) :
    Except ReadError (Option α × Option β) :=
  if key = first then return (← fillOnce fields.1 (f json), fields.2)
  else if key = second then return (fields.1, ← fillOnce fields.2 (g json))
  else do
    ignore json
    return fields

/-- Where the second field of a record is filled, it was decoded from some entry. -/
theorem second_of_foldEntries {α β : Type} {first second : String}
    {f : Json → Except ReadError α} {g : Json → Except ReadError β}
    {entries : List (Option String × Json)} {fields : Option α × Option β}
    (hfold : foldEntries (pairEntry first second f g) (none, none) entries = .ok fields) {b : β}
    (hb : fields.2 = some b) : ∃ json, g json = .ok b := by
  suffices hall : ∀ b, fields.2 = some b → ∃ json, g json = .ok b from hall b hb
  refine foldEntries_preserves (P := fun fields => ∀ b, fields.2 = some b → ∃ json, g json = .ok b)
    ?_ (by simp) hfold
  intro fields key json fields' hold hentry
  unfold pairEntry at hentry
  split at hentry
  · obtain ⟨a, -, hrest⟩ := bind_eq_ok.1 hentry
    obtain rfl : (a, fields.2) = fields' := by simpa [pure, Except.pure] using hrest
    exact hold
  split at hentry
  · obtain ⟨filled, hfill, hrest⟩ := bind_eq_ok.1 hentry
    obtain rfl : (fields.1, filled) = fields' := by simpa [pure, Except.pure] using hrest
    obtain ⟨b, hdecode, rfl⟩ := fillOnce_eq_ok hfill
    intro other hother
    obtain rfl : b = other := by simpa using hother
    exact ⟨json, hdecode⟩
  · obtain ⟨-, -, hrest⟩ := bind_eq_ok.1 hentry
    obtain rfl : fields = fields' := by simpa [pure, Except.pure] using hrest
    exact hold

theorem required_eq_ok {α : Type} {field : Option α} {a : α} (hfield : required field = .ok a) :
    field = some a := by
  cases field with
  | none => simp [required] at hfield
  | some b => simpa [required] using hfield

/-! ## Lists -/

/-- Elements that are decoded one by one are decoded as a list. -/
theorem asListOf_map {α β : Type} {f : Json → Except ReadError β} {encode : α → Json} {g : α → β}
    {as : List α} (hdecode : ∀ a ∈ as, f (encode a) = .ok (g a)) :
    asListOf f (.array (as.map encode)) = .ok (as.map g) := by
  rw [asListOf]
  induction as with
  | nil => rfl
  | cons a as ih =>
    rw [List.map_cons, List.mapM_cons, hdecode a List.mem_cons_self,
      ih fun other hother => hdecode other (List.mem_cons_of_mem _ hother)]
    rfl

/-- What a decoder can give has the property, so every element of a decoded list has it. -/
theorem forall_of_asListOf {α : Type} {f : Json → Except ReadError α} {P : α → Prop}
    (hdecode : ∀ {value a}, f value = .ok a → P a) {value : Json} {as : List α}
    (hlist : asListOf f value = .ok as) : ∀ a ∈ as, P a := by
  cases value with
  | array items =>
    rw [asListOf] at hlist
    induction items generalizing as with
    | nil =>
      obtain rfl : [] = as := by simpa [pure, Except.pure] using hlist
      simp
    | cons item items ih =>
      rw [List.mapM_cons] at hlist
      obtain ⟨first, hfirst, htail⟩ := bind_eq_ok.1 hlist
      obtain ⟨rest, hrest, hcons⟩ := bind_eq_ok.1 htail
      obtain rfl : first :: rest = as := by simpa [pure, Except.pure] using hcons
      intro a ha
      rcases List.mem_cons.1 ha with rfl | hmem
      · exact hdecode hfirst
      · exact ih hrest a hmem
  | _ => simp [asListOf] at hlist

/-! ## Texts -/

/-- An object is made from data if its values are. -/
theorem isData_ofEntries {entries : List (String × Json)}
    (hvalues : ∀ entry ∈ entries, IsData entry.2) : IsData (.ofEntries entries) := by
  refine .object (fun entry hentry => ?_) fun entry hentry => ?_
  · obtain ⟨other, -, rfl⟩ := List.mem_map.1 hentry
    rfl
  · obtain ⟨other, hother, rfl⟩ := List.mem_map.1 hentry
    exact hvalues other hother

/-- Text made from data is decoded as the data. -/
theorem decodeText_pretty {α : Type} (f : Json → Except ReadError α) {value : Json}
    (hvalue : IsData value) : decodeText f value.pretty = f value := by
  rw [decodeText, read_pretty hvalue]
  dsimp only
  cases f value with
  | error e => rfl
  | ok a => rfl

theorem of_decodeText {α : Type} {f : Json → Except ReadError α} {s : String} {a : α}
    (hdecode : decodeText f s = .ok a) : f (read s).1 = .ok a := by
  rw [decodeText] at hdecode
  dsimp only at hdecode
  split at hdecode
  · simp at hdecode
  · next b hvalue =>
    split at hdecode
    · rw [hvalue]
      simpa using hdecode
    · simp at hdecode

end FillScript.Json
