import Feel.Proofs.CalendarTexts
import Feel.Proofs.DocumentLiterals
import Feel.Proofs.FunctionNames
import Feel.Proofs.ScriptRuns

/-!
# Comments in scripts

Two slashes outside a string start a comment. A text is neutral if the scan for comments leaves it as it
is, whatever follows. What the reader of documents takes from the front of a text is neutral: where it
reads a string, the scan goes through the same string.
-/

namespace Feel.Proofs
open Script

/-! ### The scan -/

lemma stripComment_cons {c : Char} (hslash : c ≠ '/') (hquote : c ≠ '"') (cs : List Char) :
    stripComment (c :: cs) = c :: stripComment cs := by
  rw [stripComment]
  · rintro rest rfl
    exact absurd rfl hslash
  · rintro rfl
    exact absurd rfl hquote

lemma stripComment_quote (cs : List Char) : stripComment ('"' :: cs) = '"' :: stripInString cs := by
  rw [stripComment]

lemma stripInString_cons {c : Char} (hbackslash : c ≠ '\\') (hquote : c ≠ '"') (cs : List Char) :
    stripInString (c :: cs) = c :: stripInString cs := by
  rw [stripInString]
  · rintro d rest rfl
    exact absurd rfl hbackslash
  · rintro rfl
    exact absurd rfl hquote

lemma stripInString_quote (cs : List Char) : stripInString ('"' :: cs) = '"' :: stripComment cs := by
  rw [stripInString]

lemma stripInString_backslash (c : Char) (cs : List Char) :
    stripInString ('\\' :: c :: cs) = '\\' :: c :: stripInString cs := by
  rw [stripInString]

/-- The scan leaves the text as it is and goes on behind it. -/
def IsNeutral (text : List Char) : Prop :=
  ∀ tail, stripComment (text ++ tail) = text ++ stripComment tail

lemma IsNeutral.append {text more : List Char} (h : IsNeutral text) (hmore : IsNeutral more) :
    IsNeutral (text ++ more) := by
  intro tail
  rw [List.append_assoc, h, hmore, List.append_assoc]

/-- Without slashes and quotes there is neither a comment nor a string. -/
lemma isNeutral_of_forall {text : List Char} (h : ∀ c ∈ text, c ≠ '/' ∧ c ≠ '"') : IsNeutral text := by
  intro tail
  induction text with
  | nil => rfl
  | cons c text ih =>
    obtain ⟨⟨hslash, hquote⟩, htext⟩ := List.forall_mem_cons.mp h
    rw [List.cons_append, stripComment_cons hslash hquote, ih htext, List.cons_append]

lemma IsNeutral.stripComment_eq {text : List Char} (h : IsNeutral text) : stripComment text = text := by
  have hnil := h []
  rwa [List.append_nil, stripComment, List.append_nil] at hnil

lemma IsNeutral.stripComment_comment {text : List Char} (h : IsNeutral text) (comment : List Char) :
    stripComment (text ++ '/' :: '/' :: comment) = text := by
  rw [h, stripComment, List.append_nil]

/-! ### Scanning twice -/

lemma head?_of_stripComment {cs rest : List Char} {c : Char} (h : stripComment cs = c :: rest) :
    cs.head? = some c := by
  unfold stripComment at h
  split at h
  · exact nomatch h
  · exact nomatch h
  · exact congrArg some (List.cons.inj h).1
  · exact congrArg some (List.cons.inj h).1

lemma stripComment_stripComment (cs : List Char) : stripComment (stripComment cs) = stripComment cs := by
  refine stripComment.induct (fun cs => stripComment (stripComment cs) = stripComment cs)
    (fun cs => stripInString (stripInString cs) = stripInString cs) rfl ?slashes ?quote ?other rfl
    ?escape ?close ?inside cs
  case slashes =>
    intro tail
    rw [stripComment, stripComment]
  case quote =>
    intro cs ih
    rw [stripComment_quote, stripComment_quote, ih]
  case other =>
    intro c cs hslashes hquote ih
    have hstrip : ∀ ds : List Char, (c = '/' → ds.head? ≠ some '/') →
        stripComment (c :: ds) = c :: stripComment ds := by
      intro ds hds
      rw [stripComment]
      · rintro rest rfl rfl
        exact hds rfl rfl
      · exact hquote
    have hcs (hc : c = '/') : cs.head? ≠ some '/' := by
      intro hhead
      obtain ⟨rest, rfl⟩ := List.head?_eq_some_iff.mp hhead
      exact hslashes rest hc rfl
    rw [hstrip cs hcs, hstrip (stripComment cs), ih]
    intro hc hhead
    obtain ⟨rest, hrest⟩ := List.head?_eq_some_iff.mp hhead
    exact hcs hc (head?_of_stripComment hrest)
  case escape =>
    intro c cs ih
    rw [stripInString_backslash, stripInString_backslash, ih]
  case close =>
    intro cs ih
    rw [stripInString_quote, stripInString_quote, ih]
  case inside =>
    intro c cs hescape hquote ih
    by_cases hbackslash : c = '\\'
    · -- a backslash at the end escapes nothing
      cases cs with
      | nil =>
        rw [hbackslash]
        rfl
      | cons d cs => exact absurd rfl (hescape d cs hbackslash)
    · rw [stripInString_cons hbackslash hquote, stripInString_cons hbackslash hquote, ih]

/-! ### What the reader of documents takes -/

/-- Readers change what they have read, but not what follows it. -/
lemma exists_of_map_eq_some {α β : Type} {x : Option (α × List Char)} {f : α → β} {b : β}
    {rest : List Char} (h : x.map (fun (a, rest) => (f a, rest)) = some (b, rest)) :
    ∃ a, x = some (a, rest) := by
  obtain ⟨⟨a, rest⟩, hx, heq⟩ := Option.map_eq_some_iff.mp h
  obtain ⟨-, rfl⟩ := Prod.mk.inj heq
  exact ⟨a, hx⟩

/-- A reader has gone from one text to the other over neutral text. -/
def Passes (cs rest : List Char) : Prop := ∃ text, cs = text ++ rest ∧ IsNeutral text

lemma Passes.trans {cs ds es : List Char} (h : Passes cs ds) (hmore : Passes ds es) : Passes cs es := by
  obtain ⟨text, rfl, htext⟩ := h
  obtain ⟨more, rfl, hmore⟩ := hmore
  exact ⟨text ++ more, (List.append_assoc text more es).symm, htext.append hmore⟩

lemma passes_append {text : List Char} (h : ∀ c ∈ text, c ≠ '/' ∧ c ≠ '"') (rest : List Char) :
    Passes (text ++ rest) rest :=
  ⟨text, rfl, isNeutral_of_forall h⟩

lemma passes_cons {c : Char} (hslash : c ≠ '/') (hquote : c ≠ '"') (rest : List Char) :
    Passes (c :: rest) rest :=
  ⟨[c], rfl, isNeutral_of_forall (List.forall_mem_singleton.mpr ⟨hslash, hquote⟩)⟩

lemma isNeutral_of_passes {cs : List Char} (h : Passes cs []) : IsNeutral cs := by
  obtain ⟨text, rfl, htext⟩ := h
  rwa [List.append_nil]

lemma passes_skipBlank (cs : List Char) : Passes cs (Json.skipBlank cs) := by
  refine ⟨cs.takeWhile Json.isBlank, List.takeWhile_append_dropWhile.symm, isNeutral_of_forall ?_⟩
  intro c hc
  have hblank := List.mem_takeWhile_imp hc
  constructor
  · rintro rfl
    exact absurd hblank (by decide)
  · rintro rfl
    exact absurd hblank (by decide)

/-- A reader within a string has gone behind its end, and so does the scan. -/
def Closes (cs rest : List Char) : Prop :=
  ∃ text, cs = text ++ rest ∧ ∀ tail, stripInString (text ++ tail) = text ++ stripComment tail

lemma closes_quote (rest : List Char) : Closes ('"' :: rest) rest := ⟨['"'], rfl, stripInString_quote⟩

lemma Closes.cons {c : Char} {cs rest : List Char} (h : Closes cs rest)
    (hc : c ≠ '\\' ∧ c ≠ '"') : Closes (c :: cs) rest := by
  obtain ⟨text, rfl, htext⟩ := h
  refine ⟨c :: text, rfl, fun tail => ?_⟩
  rw [List.cons_append, stripInString_cons hc.1 hc.2, htext, List.cons_append]

lemma Closes.escape {cs rest : List Char} (h : Closes cs rest) (c : Char) :
    Closes ('\\' :: c :: cs) rest := by
  obtain ⟨text, rfl, htext⟩ := h
  refine ⟨'\\' :: c :: text, rfl, fun tail => ?_⟩
  rw [List.cons_append, List.cons_append, stripInString_backslash, htext, List.cons_append,
    List.cons_append]

lemma ne_of_hexDigit? {c : Char} {n : ℕ} (h : Unicode.hexDigit? c = some n) : c ≠ '\\' ∧ c ≠ '"' := by
  constructor
  · rintro rfl
    exact nomatch h
  · rintro rfl
    exact nomatch h

/-- The four digits of a character written by its number. -/
lemma Closes.code {a b c d : Char} {code : ℕ} {cs rest : List Char} (h : Closes cs rest)
    (hcode : Json.hexWord? a b c d = some code) :
    Closes ('\\' :: 'u' :: a :: b :: c :: d :: cs) rest := by
  simp only [Json.hexWord?, Option.bind_eq_bind, Option.bind_eq_some_iff] at hcode
  obtain ⟨_, ha, _, hb, _, hc, _, hd, -⟩ := hcode
  have hlast := (h.cons (ne_of_hexDigit? hd)).cons (ne_of_hexDigit? hc)
  have hdigits := (hlast.cons (ne_of_hexDigit? hb)).cons (ne_of_hexDigit? ha)
  exact hdigits.escape 'u'

lemma closes_of_readString? {cs text rest : List Char} (h : Json.readString? cs = some (text, rest)) :
    Closes cs rest := by
  fun_induction Json.readString? cs generalizing text rest with
  | case1 => exact nomatch h
  | case2 rest' =>
    obtain ⟨-, rfl⟩ := Prod.mk.inj (Option.some.inj h)
    exact closes_quote rest'
  | case3 a b c d rest' ih ih' =>
    simp only [Option.bind_eq_bind, Option.bind_eq_some_iff] at h
    obtain ⟨code, hcode, h⟩ := h
    split_ifs at h
    · simp only [Option.bind_eq_some_iff] at h
      obtain ⟨⟨text', rest''⟩, hread, heq⟩ := h
      obtain ⟨-, rfl⟩ := Prod.mk.inj (Option.some.inj heq)
      exact (ih hread).code hcode
    · split at h
      · rename_i a' b' c' d' rest''
        simp only [Option.bind_eq_some_iff] at h
        obtain ⟨low, hlow, _, -, ⟨text', rest'⟩, hread, heq⟩ := h
        obtain ⟨-, rfl⟩ := Prod.mk.inj (Option.some.inj heq)
        exact ((ih' hread).code hlow).code hcode
      · exact nomatch h
  | case4 c rest' _ ih =>
    simp only [Option.bind_eq_bind, Option.bind_eq_some_iff] at h
    obtain ⟨_, -, ⟨text', rest''⟩, hread, heq⟩ := h
    obtain ⟨-, rfl⟩ := Prod.mk.inj (Option.some.inj heq)
    exact (ih hread).escape c
  | case5 => exact nomatch h
  | case6 c rest' hquote _ _ hplain ih =>
    obtain ⟨text', hread⟩ := exists_of_map_eq_some h
    have hbackslash : c ≠ '\\' := by
      rintro rfl
      exact hplain rfl
    exact (ih hread).cons ⟨hbackslash, hquote⟩

lemma passes_string {cs text rest : List Char} (h : Json.readString? cs = some (text, rest)) :
    Passes ('"' :: cs) rest := by
  obtain ⟨inner, rfl, hinner⟩ := closes_of_readString? h
  refine ⟨'"' :: inner, rfl, fun tail => ?_⟩
  rw [List.cons_append, stripComment_quote, hinner, List.cons_append]

lemma mem_numeral_text (n : Numeral) {c : Char} (hc : c ∈ n.text) :
    c.isDigit = true ∨ c ∈ ['+', '-', '.', 'e', 'E'] := by
  have hsign (sign : Sign) : sign.char ∈ ['+', '-', '.', 'e', 'E'] := by cases sign <;> decide
  rw [Numeral.text, Numeral.body, List.mem_append, List.mem_append] at hc
  obtain hc | hc | hc := hc
  · obtain ⟨sign, -, rfl⟩ := Option.map_eq_some_iff.mp (Option.mem_toList.mp hc)
    exact .inr (hsign sign)
  · obtain hc | rfl := isDigit_or_eq_point_of_mem_mantissa n c hc
    · exact .inl hc
    · exact .inr (by decide)
  · cases hexponent : n.exponent with
    | none =>
      rw [hexponent] at hc
      exact absurd hc List.not_mem_nil
    | some e =>
      rw [hexponent, Numeral.exponentText, List.mem_cons, Exponent.tail, List.mem_append] at hc
      obtain rfl | hc | hc := hc
      · obtain hmarker | hmarker := e.marker_eq
        · exact .inr (by rw [hmarker]; decide)
        · exact .inr (by rw [hmarker]; decide)
      · obtain ⟨sign, -, rfl⟩ := List.mem_map.mp hc
        exact .inr (hsign sign)
      · exact .inl (e.allDigits c hc)

lemma passes_number {cs text rest : List Char} (h : Json.readNumber? cs = some (text, rest)) :
    Passes cs rest := by
  obtain ⟨n, rfl, -⟩ := readNumber?_eq_some h
  refine passes_append (fun c hc => ?_) rest
  exact ⟨ne_of_isDigit_or_mem (mem_numeral_text n hc) (by decide) (by decide),
    ne_of_isDigit_or_mem (mem_numeral_text n hc) (by decide) (by decide)⟩

lemma passes_dropPrefix? {word cs rest : List Char} (hword : ∀ c ∈ word, c ≠ '/' ∧ c ≠ '"')
    (h : Text.dropPrefix? word cs = some rest) : Passes cs rest := by
  rw [Text.eq_append_of_dropPrefix? h]
  exact passes_append hword rest

lemma passes_word {cs rest : List Char} {v : Json} (h : Json.readWord? cs = some (v, rest)) :
    Passes cs rest := by
  have hword {word : List Char} (hne : ∀ c ∈ word, c ≠ '/' ∧ c ≠ '"') {w : Json}
      (h : (Text.dropPrefix? word cs).map (w, ·) = some (v, rest)) : Passes cs rest := by
    obtain ⟨rest', hdrop, heq⟩ := Option.map_eq_some_iff.mp h
    obtain ⟨-, rfl⟩ := Prod.mk.inj heq
    exact passes_dropPrefix? hne hdrop
  unfold Json.readWord? at h
  simp only [Option.orElse_eq_some] at h
  obtain h | ⟨-, h | ⟨-, h⟩⟩ := h
  · exact hword (by simp) h
  · exact hword (by simp) h
  · exact hword (by simp) h

section Values

variable {fuel depth : ℕ} {cs rest : List Char}
  (hitems : ∀ {depth cs items rest}, Json.readItems? fuel depth cs = some (items, rest) → Passes cs rest)
  (hfields : ∀ {depth cs fields rest},
    Json.readFields? fuel depth cs = some (fields, rest) → Passes cs rest)
  (hvalue : ∀ {depth cs v rest}, Json.readValue? fuel depth cs = some (v, rest) → Passes cs rest)

include hitems hfields in
lemma passes_value {v : Json} (h : Json.readValue? (fuel + 1) depth cs = some (v, rest)) :
    Passes cs rest := by
  rw [Json.readValue?] at h
  apply (passes_skipBlank cs).trans
  generalize Json.skipBlank cs = front at h ⊢
  split at h
  · exact nomatch h
  · obtain ⟨text, hread⟩ := exists_of_map_eq_some (f := fun s => Json.string (String.ofList s)) h
    exact passes_string hread
  · rename_i inner
    split_ifs at h
    apply (passes_cons (by decide) (by decide) inner).trans
    apply (passes_skipBlank inner).trans
    generalize Json.skipBlank inner = front at h ⊢
    split at h
    · obtain ⟨-, rfl⟩ := Prod.mk.inj (Option.some.inj h)
      exact passes_cons (by decide) (by decide) _
    · obtain ⟨items, hread⟩ := exists_of_map_eq_some h
      exact hitems hread
  · rename_i inner
    split_ifs at h
    apply (passes_cons (by decide) (by decide) inner).trans
    apply (passes_skipBlank inner).trans
    generalize Json.skipBlank inner = front at h ⊢
    split at h
    · obtain ⟨-, rfl⟩ := Prod.mk.inj (Option.some.inj h)
      exact passes_cons (by decide) (by decide) _
    · simp only [Option.bind_eq_bind, Option.bind_eq_some_iff] at h
      obtain ⟨⟨fields, behind⟩, hread, object, -, heq⟩ := h
      obtain ⟨-, rfl⟩ := Prod.mk.inj (Option.some.inj heq)
      exact hfields hread
  · rw [Option.orElse_eq_some] at h
    obtain h | ⟨-, h⟩ := h
    · exact passes_word h
    · obtain ⟨text, hread⟩ := exists_of_map_eq_some (f := fun s => Json.number (String.ofList s)) h
      exact passes_number hread

include hitems hvalue in
lemma passes_items {items : List Json}
    (h : Json.readItems? (fuel + 1) depth cs = some (items, rest)) : Passes cs rest := by
  rw [Json.readItems?] at h
  simp only [Option.bind_eq_bind, Option.bind_eq_some_iff] at h
  obtain ⟨⟨item, behind⟩, hread, h⟩ := h
  apply (hvalue hread).trans
  apply (passes_skipBlank behind).trans
  dsimp only at h
  generalize Json.skipBlank behind = front at h ⊢
  split at h
  · obtain ⟨-, rfl⟩ := Prod.mk.inj (Option.some.inj h)
    exact passes_cons (by decide) (by decide) _
  · obtain ⟨items, hread⟩ := exists_of_map_eq_some h
    exact (passes_cons (by decide) (by decide) _).trans (hitems hread)
  · exact nomatch h

include hfields hvalue in
lemma passes_fields {fields : List (String × Json)}
    (h : Json.readFields? (fuel + 1) depth cs = some (fields, rest)) : Passes cs rest := by
  rw [Json.readFields?] at h
  apply (passes_skipBlank cs).trans
  generalize Json.skipBlank cs = front at h ⊢
  split at h
  · simp only [Option.bind_eq_bind, Option.bind_eq_some_iff] at h
    obtain ⟨⟨name, behindName⟩, hname, h⟩ := h
    apply (passes_string hname).trans
    apply (passes_skipBlank behindName).trans
    dsimp only at h
    generalize Json.skipBlank behindName = front at h ⊢
    split at h
    · simp only [Option.bind_eq_some_iff] at h
      obtain ⟨⟨value, behind⟩, hread, h⟩ := h
      apply (passes_cons (by decide) (by decide) _).trans
      apply (hvalue hread).trans
      apply (passes_skipBlank behind).trans
      dsimp only at h
      generalize Json.skipBlank behind = front at h ⊢
      split at h
      · obtain ⟨fields, hread⟩ := exists_of_map_eq_some h
        exact (passes_cons (by decide) (by decide) _).trans (hfields hread)
      · obtain ⟨-, rfl⟩ := Prod.mk.inj (Option.some.inj h)
        exact passes_cons (by decide) (by decide) _
      · exact nomatch h
    · exact nomatch h
  · exact nomatch h

end Values

/-- By induction on the fuel, for values, items and fields at once. -/
lemma passes_of_read (fuel : ℕ) :
    (∀ {depth cs v rest}, Json.readValue? fuel depth cs = some (v, rest) → Passes cs rest) ∧
    (∀ {depth cs items rest}, Json.readItems? fuel depth cs = some (items, rest) → Passes cs rest) ∧
    ∀ {depth cs fields rest}, Json.readFields? fuel depth cs = some (fields, rest) → Passes cs rest := by
  induction fuel with
  | zero =>
    refine ⟨?_, ?_, ?_⟩
    · intro depth cs v rest h
      exact nomatch h
    · intro depth cs items rest h
      exact nomatch h
    · intro depth cs fields rest h
      exact nomatch h
  | succ fuel ih =>
    obtain ⟨hvalue, hitems, hfields⟩ := ih
    exact ⟨passes_value hitems hfields, passes_items hitems hvalue, passes_fields hfields hvalue⟩

lemma passes_readFirst? {cs rest : List Char} {v : Json} (h : Json.readFirst? cs = some (v, rest)) :
    Passes cs rest :=
  (passes_of_read _).1 h

/-! ### Call lines -/

lemma ne_of_isBlank {c : Char} (h : Text.isBlank c = true) : c ≠ '/' ∧ c ≠ '"' := by
  constructor
  · rintro rfl
    exact absurd h (by decide)
  · rintro rfl
    exact absurd h (by decide)

lemma exists_trim (cs : List Char) : ∃ front back, cs = front ++ Text.trim cs ++ back ∧
    (∀ c ∈ front, Text.isBlank c = true) ∧ ∀ c ∈ back, Text.isBlank c = true := by
  have hback (ds : List Char) : ds =
      (ds.reverse.dropWhile Text.isBlank).reverse ++ (ds.reverse.takeWhile Text.isBlank).reverse := by
    rw [← List.reverse_append, List.takeWhile_append_dropWhile, List.reverse_reverse]
  refine ⟨cs.takeWhile Text.isBlank, ((cs.dropWhile Text.isBlank).reverse.takeWhile Text.isBlank).reverse,
    ?_, fun c hc => List.mem_takeWhile_imp hc, fun c hc => ?_⟩
  · rw [Text.trim, List.append_assoc, ← hback, List.takeWhile_append_dropWhile]
  · exact List.mem_takeWhile_imp (List.mem_reverse.mp hc)

lemma plain_of_trim {cs : List Char} (h : ∀ c ∈ Text.trim cs, c ≠ '/' ∧ c ≠ '"') :
    ∀ c ∈ cs, c ≠ '/' ∧ c ≠ '"' := by
  obtain ⟨front, back, heq, hfront, hback⟩ := exists_trim cs
  intro c hc
  rw [heq, List.mem_append, List.mem_append] at hc
  obtain (hc | hc) | hc := hc
  · exact ne_of_isBlank (hfront c hc)
  · exact h c hc
  · exact ne_of_isBlank (hback c hc)

lemma isNeutral_of_trim {cs : List Char} (h : IsNeutral (Text.trim cs)) : IsNeutral cs := by
  obtain ⟨front, back, heq, hfront, hback⟩ := exists_trim cs
  rw [heq]
  have hfront : IsNeutral front := isNeutral_of_forall fun c hc => ne_of_isBlank (hfront c hc)
  have hback : IsNeutral back := isNeutral_of_forall fun c hc => ne_of_isBlank (hback c hc)
  exact (hfront.append h).append hback

lemma isNeutral_of_ofChars? {cs : List Char} {v : Json} (h : Json.ofChars? cs = some v) :
    IsNeutral cs := by
  unfold Json.ofChars? at h
  split at h
  · rename_i rest hread
    split_ifs at h with hblank
    have hskip := passes_skipBlank rest
    rw [List.isEmpty_iff.mp hblank] at hskip
    exact isNeutral_of_passes ((passes_readFirst? hread).trans hskip)
  · exact nomatch h

/-- A name without slashes and quotes, a document with a list and perhaps, after an arrow, a document
with the expected value. -/
def IsCallLine (line : List Char) : Prop :=
  ∃ name document items tail, line = name ++ document ∧ (∀ c ∈ name, c ≠ '/' ∧ c ≠ '"') ∧
    Json.readFirst? document = some (.array items, tail) ∧
    (Text.trim tail = [] ∨
      ∃ expected json, Text.trim tail = '=' :: '>' :: expected ∧ Json.ofChars? expected = some json)

lemma IsCallLine.isNeutral {line : List Char} (h : IsCallLine line) : IsNeutral line := by
  obtain ⟨name, document, items, tail, rfl, hname, hread, htail⟩ := h
  obtain ⟨taken, rfl, htaken⟩ := passes_readFirst? hread
  have hneutral : IsNeutral (Text.trim tail) := by
    obtain hnil | ⟨expected, json, harrow, hexpected⟩ := htail
    · rw [hnil]
      exact fun _ => rfl
    · rw [harrow]
      have harrow : IsNeutral ['=', '>'] := isNeutral_of_forall (by simp)
      exact harrow.append (isNeutral_of_ofChars? hexpected)
  exact (isNeutral_of_forall hname).append (htaken.append (isNeutral_of_trim hneutral))

lemma all_names_plain : (Builtin.all.all fun f => (f.name :: f.aliases).all fun name =>
    name.toList.all fun c => c != '/' && c != '"') = true := by
  decide +kernel

lemma IsNameOf.plain {name : String} {f : Builtin} (h : IsNameOf name f) :
    ∀ c ∈ name.toList, c ≠ '/' ∧ c ≠ '"' := by
  intro c hc
  have hname := List.all_eq_true.mp (List.all_eq_true.mp all_names_plain f (mem_all f)) name h
  simpa using List.all_eq_true.mp hname c hc

lemma arrow_of_readExpected [Zones] {next : ℕ} {text : List Char} {expected : Option Value}
    (h : readExpected next text = .ok expected) :
    text = [] ∨ ∃ document json, text = '=' :: '>' :: document ∧ Json.ofChars? document = some json := by
  unfold readExpected at h
  split at h
  · exact .inl rfl
  · rename_i document
    unfold readValue at h
    cases hread : Json.ofChars? document with
    | none =>
      rw [hread] at h
      exact nomatch h
    | some json => exact .inr ⟨document, json, rfl, hread⟩
  · exact nomatch h

/-- Whatever is read as a call is a call line. -/
lemma yields_readCall [Zones] (text : List Char) : Yields (fun _ => IsCallLine text) (readCall text) := by
  unfold readCall
  simp only [yields_ite, yields_bind, yields_throw, implies_true, true_and]
  intro _ _ hknown
  split
  · rename_i items tail hread
    simp only [yields_bind, yields_pure]
    intro _ _ expected hexpected
    obtain ⟨f, hf⟩ := Option.ne_none_iff_exists'.mp (Option.isNone_iff_eq_none.not.mp hknown)
    have hname := (ofName?_eq_some_iff.mp hf).plain
    rw [String.toList_ofList] at hname
    exact ⟨text.takeWhile (· != '['), _, items, tail, List.takeWhile_append_dropWhile.symm,
      plain_of_trim hname, hread, arrow_of_readExpected hexpected⟩
  · exact yields_throw _
  · exact yields_throw _

/-! ### Scripts with comments -/

/-- A line is run for its body. -/
lemma runLines_congr [Zones] {ls ms : List (List Char)} (h : ls.map body = ms.map body)
    (p : Progress) (number : ℕ) : p.runLines number ls = p.runLines number ms := by
  induction ls generalizing ms p number with
  | nil =>
    rw [List.map_nil, eq_comm, List.map_eq_nil_iff] at h
    rw [h]
  | cons line rest ih =>
    obtain ⟨line', rest', rfl, hline, hrest⟩ := List.map_eq_cons_iff.mp h.symm
    have hrun : p.runLine number line' = p.runLine number line := by
      rw [Progress.runLine, Progress.runLine, hline]
    rw [Progress.runLines, Progress.runLines, hrun]
    split
    · exact ih hrest.symm _ _
    · rfl

lemma lines_of_not_mem {cs : List Char} (h : '\n' ∉ cs) : lines cs = [cs] := by
  induction cs with
  | nil => rfl
  | cons c cs ih =>
    obtain ⟨hc, hcs⟩ := not_or.mp (List.mem_cons.not.mp h)
    exact lines_cons (Ne.symm hc) (ih hcs)

/-- A text behind which a line starts. -/
def EndsLine (text : List Char) : Prop := text = [] ∨ ∃ front, text = front ++ ['\n']

/-- A text before which a line ends. -/
def StartsLine (text : List Char) : Prop := text = [] ∨ ∃ rest, text = '\n' :: rest

lemma exists_lines_between {before after : List Char} (hbefore : EndsLine before)
    (hafter : StartsLine after) :
    ∃ ls ms, ∀ line, '\n' ∉ line → lines (before ++ line ++ after) = ls ++ line :: ms := by
  have hend : ∃ ms, ∀ line, '\n' ∉ line → lines (line ++ after) = line :: ms := by
    obtain rfl | ⟨rest, rfl⟩ := hafter
    · refine ⟨[], fun line hline => ?_⟩
      rw [List.append_nil, lines_of_not_mem hline]
    · refine ⟨lines rest, fun line hline => ?_⟩
      rw [lines_append_newline, lines_of_not_mem hline]
      rfl
  obtain ⟨ms, hend⟩ := hend
  obtain rfl | ⟨front, rfl⟩ := hbefore
  · exact ⟨[], ms, fun line hline => hend line hline⟩
  · refine ⟨lines front, ms, fun line hline => ?_⟩
    rw [List.append_assoc, List.append_assoc, List.singleton_append, lines_append_newline,
      hend line hline]

/-- A call line holds no comment, and a comment behind it does not change the run of the script that it
stands in. -/
theorem callLine_comments [Zones] (line : List Char) :
    (∀ c, readCall line = .ok c → IsCallLine line) ∧
    (IsCallLine line → stripComment line = line ∧
      ∀ comment before after, '\n' ∉ line → '\n' ∉ comment → EndsLine before → StartsLine after →
        ∀ library showing,
          run library showing (String.ofList (before ++ (line ++ '/' :: '/' :: comment) ++ after)) =
            run library showing (String.ofList (before ++ line ++ after))) ∧
    ∀ text, stripComment (stripComment text) = stripComment text := by
  refine ⟨yields_readCall line, fun hline => ⟨hline.isNeutral.stripComment_eq, ?_⟩,
    stripComment_stripComment⟩
  intro comment before after hnewline hcomment hbefore hafter library showing
  obtain ⟨ls, ms, hlines⟩ := exists_lines_between hbefore hafter
  have hcommented : '\n' ∉ line ++ '/' :: '/' :: comment := by
    simp only [List.mem_append, List.mem_cons, not_or]
    exact ⟨hnewline, by decide, by decide, hcomment⟩
  have hbody : body (line ++ '/' :: '/' :: comment) = body line := by
    rw [body, body, hline.isNeutral.stripComment_comment, hline.isNeutral.stripComment_eq]
  rw [run, run, String.toList_ofList, String.toList_ofList, hlines line hnewline, hlines _ hcommented]
  apply runLines_congr
  rw [List.map_append, List.map_append, List.map_cons, List.map_cons, hbody]

/-- A call of which both texts hold two slashes, the first one also a quote and a backslash. -/
def slashes : List Char := "contains [\"a//\\\"//b\\\\\", \"//\"] => true".toList

theorem callLine_comments_slashes :
    IsCallLine slashes ∧ stripComment slashes = slashes ∧
    (run (.ofSink .memory) logOnly (String.ofList slashes)).2 = none ∧
    ∀ library showing,
      run library showing
          (String.ofList ("abs [-1]\n".toList ++ (slashes ++ '/' :: '/' :: [' ', '"']) ++ [])) =
        run library showing (String.ofList ("abs [-1]\n".toList ++ slashes ++ [])) := by
  obtain ⟨hread, hcomments, -⟩ := callLine_comments slashes
  have hline : IsCallLine slashes := by
    cases hcall : readCall slashes with
    | ok c => exact hread c hcall
    | error cause =>
      have hsome : (readCall slashes).toOption.isSome = true := by decide +kernel
      rw [hcall] at hsome
      exact nomatch hsome
  obtain ⟨hstrip, hruns⟩ := hcomments hline
  refine ⟨hline, hstrip, by decide +kernel, ?_⟩
  exact hruns [' ', '"'] "abs [-1]\n".toList [] (by decide) (by decide) (.inr ⟨"abs [-1]".toList, rfl⟩)
    (.inl rfl)

end Feel.Proofs
