/-!
# Fields

A text is split into the fields between the occurrences of a separator, and fields are joined with
it. Splitting and joining undo each other when no field holds the separator.
-/

namespace Sift.Text

/-- The fields between the occurrences of `sep`: one more than there are occurrences. -/
def fields (sep : Char) : List Char → List (List Char)
  | [] => [[]]
  | c :: rest =>
    if c = sep then [] :: fields sep rest
    else match fields sep rest with
      | [] => [[c]]
      | field :: more => (c :: field) :: more

/-- The fields with the separator between them. -/
def joined (sep : Char) : List (List Char) → List Char
  | [] => []
  | [field] => field
  | field :: more => field ++ sep :: joined sep more

def split (sep : Char) (s : String) : List String := (fields sep s.toList).map String.ofList

def join (sep : Char) (parts : List String) : String :=
  String.ofList (joined sep (parts.map String.toList))

theorem fields_ne_nil (sep : Char) (cs : List Char) : fields sep cs ≠ [] := by
  cases cs with
  | nil => simp [fields]
  | cons c rest =>
    rw [fields]
    split
    · simp
    · split <;> simp

theorem joined_cons_cons (sep : Char) (f g : List Char) (more : List (List Char)) :
    joined sep (f :: g :: more) = f ++ sep :: joined sep (g :: more) := rfl

/-- Joining the fields of a text gives the text. -/
theorem joined_fields (sep : Char) (cs : List Char) : joined sep (fields sep cs) = cs := by
  induction cs with
  | nil => rfl
  | cons c rest ih =>
    rw [fields]
    cases h : fields sep rest with
    | nil => exact absurd h (fields_ne_nil sep rest)
    | cons field more =>
      rw [h] at ih
      by_cases hc : c = sep
      · simp [hc, joined_cons_cons, ih]
      · cases more with
        | nil => simpa [hc, joined] using ih
        | cons g more => simpa [hc, joined_cons_cons] using ih

theorem fields_append_sep (sep : Char) (field cs : List Char) (h : sep ∉ field) :
    fields sep (field ++ sep :: cs) = field :: fields sep cs := by
  induction field with
  | nil => simp [fields]
  | cons c field ih =>
    have hc : c ≠ sep := fun e => h (by simp [e])
    rw [List.cons_append, fields, ih (fun m => h (by simp [m]))]
    simp [hc]

theorem fields_of_not_mem (sep : Char) (cs : List Char) (h : sep ∉ cs) : fields sep cs = [cs] := by
  induction cs with
  | nil => rfl
  | cons c rest ih =>
    have hc : c ≠ sep := fun e => h (by simp [e])
    rw [fields, ih (fun m => h (by simp [m]))]
    simp [hc]

/-- Splitting joined fields gives them back when none holds the separator. -/
theorem fields_joined (sep : Char) (parts : List (List Char)) (hne : parts ≠ [])
    (h : ∀ part ∈ parts, sep ∉ part) : fields sep (joined sep parts) = parts := by
  induction parts with
  | nil => exact absurd rfl hne
  | cons part more ih =>
    cases more with
    | nil => exact fields_of_not_mem sep part (h part (by simp))
    | cons next more =>
      rw [joined_cons_cons, fields_append_sep sep part _ (h part (by simp)),
        ih (by simp) (fun p hp => h p (by simp [hp]))]

end Sift.Text
