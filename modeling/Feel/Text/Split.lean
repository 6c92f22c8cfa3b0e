/-!
# Cutting text

Text is cut at the leftmost occurrence of a character class or of another text. `cut?_eq` says that
the two parts and the needle make up the whole again.
-/

namespace Feel.Text

/-- The part before the first character of the class, and the part after it if there is one. -/
def splitOnce (p : Char → Bool) : List Char → List Char × Option (List Char)
  | [] => ([], none)
  | c :: cs =>
    if p c then ([], some cs)
    else
      let (before, after) := splitOnce p cs
      (c :: before, after)

/-- What follows `needle` at the front of the text. -/
def dropPrefix? : (needle text : List Char) → Option (List Char)
  | [], text => some text
  | _ :: _, [] => none
  | n :: ns, c :: cs => if n = c then dropPrefix? ns cs else none

/-- The text before and after the leftmost occurrence of `needle`. -/
def cut? (needle : List Char) : List Char → Option (List Char × List Char)
  | [] => (dropPrefix? needle []).map fun rest => ([], rest)
  | c :: cs =>
    match dropPrefix? needle (c :: cs) with
    | some rest => some ([], rest)
    | none => (cut? needle cs).map fun (before, after) => (c :: before, after)

theorem eq_append_of_dropPrefix? {needle text rest : List Char}
    (h : dropPrefix? needle text = some rest) : text = needle ++ rest := by
  fun_induction dropPrefix? needle text <;> simp_all

theorem cut?_eq {needle text before after : List Char}
    (h : cut? needle text = some (before, after)) : text = before ++ needle ++ after := by
  induction text generalizing before after with
  | nil =>
    obtain ⟨rest, hr, he⟩ := Option.map_eq_some_iff.1 h
    obtain ⟨rfl, rfl⟩ := Prod.mk.injEq .. ▸ he
    simpa using eq_append_of_dropPrefix? hr
  | cons c cs ih =>
    rw [cut?] at h
    split at h
    · obtain ⟨rfl, rfl⟩ := Prod.mk.injEq .. ▸ Option.some.inj h
      simpa using eq_append_of_dropPrefix? (by assumption)
    · obtain ⟨⟨b, a⟩, hc, he⟩ := Option.map_eq_some_iff.1 h
      obtain ⟨rfl, rfl⟩ := Prod.mk.injEq .. ▸ he
      simp [ih hc]

def contains (needle text : List Char) : Bool := (cut? needle text).isSome

def startsWith (needle text : List Char) : Bool := (dropPrefix? needle text).isSome

def endsWith (needle text : List Char) : Bool := startsWith needle.reverse text.reverse

/-- Every leftmost, non-overlapping occurrence of a non-empty `needle` replaced by `new`. -/
def replaceAll (needle new text : List Char) : List Char :=
  match _h : cut? needle text with
  | none => text
  | some (before, after) =>
    if needle = [] then text else before ++ new ++ replaceAll needle new after
termination_by text.length
decreasing_by
  have := congrArg List.length (cut?_eq _h)
  have : 0 < needle.length := List.length_pos_iff.2 (by assumption)
  simp at *
  omega

end Feel.Text
