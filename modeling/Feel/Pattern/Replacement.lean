import Feel.Digits

/-!
# Replacements and templates

In the text that replaces a match, `$` and digits stand for the text of a group, and a backslash stands
before a dollar sign or a backslash that stand for themselves. Such a text is translated into a template.
There a reference stands between `${` and `}`, or it extends as far as letters, digits and underscores do,
and `$$` stands for a dollar sign.
-/

namespace Feel.Pattern.Template

/-- The template of a replacement, unless a backslash or a dollar sign is not followed as it must be. -/
def ofReplacement? : List Char → Option (List Char)
  | [] => some []
  | '\\' :: cs =>
    match cs with
    | '\\' :: rest => (ofReplacement? rest).map ('\\' :: ·)
    | '$' :: rest => (ofReplacement? rest).map ('$' :: '$' :: ·)
    | _ => none
  | '$' :: cs =>
    let ds := cs.takeWhile Char.isDigit
    if ds.isEmpty then none
    else (ofReplacement? (cs.dropWhile Char.isDigit)).map fun rest => '$' :: '{' :: ds ++ '}' :: rest
  | c :: cs => (ofReplacement? cs).map (c :: ·)
termination_by cs => cs.length
decreasing_by
  · simp only [List.length_cons]; omega
  · simp only [List.length_cons]; omega
  · exact Nat.lt_succ_of_le (List.dropWhile_sublist _).length_le
  · exact Nat.lt_succ_self _

/-- A character of a reference without braces. -/
def isReferenceChar (c : Char) : Bool := c.isAlphanum || c == '_'

/-- The text that a reference stands for: that of the group with this number, if it took part in the match.
Anything but a number stands for nothing. -/
def referenced (groupText : Nat → Option (List Char)) (reference : List Char) : List Char :=
  if Digits.isNumber reference then (groupText (Digits.toNat reference)).getD [] else []

/-- The text that a template stands for, given the text of each group that took part in the match. A dollar
sign that starts no reference stands for itself. -/
def expand (groupText : Nat → Option (List Char)) : List Char → List Char
  | [] => []
  | '$' :: '$' :: rest => '$' :: expand groupText rest
  | '$' :: '{' :: rest =>
    match _h : rest.dropWhile (· != '}') with
    | [] => '$' :: expand groupText ('{' :: rest)
    | _ :: after => referenced groupText (rest.takeWhile (· != '}')) ++ expand groupText after
  | '$' :: rest =>
    let reference := rest.takeWhile isReferenceChar
    if reference.isEmpty then '$' :: expand groupText rest
    else referenced groupText reference ++ expand groupText (rest.dropWhile isReferenceChar)
  | c :: rest => c :: expand groupText rest
termination_by template => template.length
decreasing_by
  · simp only [List.length_cons]; omega
  · exact Nat.lt_succ_self _
  · have := (List.dropWhile_sublist (l := rest) (· != '}')).length_le
    rw [_h] at this
    simp only [List.length_cons] at *
    omega
  · exact Nat.lt_succ_self _
  · exact Nat.lt_succ_of_le (List.dropWhile_sublist _).length_le
  · exact Nat.lt_succ_self _

end Feel.Pattern.Template
