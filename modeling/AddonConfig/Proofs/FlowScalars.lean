import AddonConfig.Proofs.JsonGrammar
import AddonConfig.Yaml.Scalar
import Mathlib.Data.List.Chain

/-!
# Scalars of JSON text as YAML reads them

A string between quotes and a word mean the same to both readers, as long as no raw line separator folds:
`Calm` rules out the separators that would. Blanks between lexemes are passed over by both.
-/

namespace AddonConfig.Yaml
open Json (Raw Escape Lexeme Spelled Spaced IsWord isWordSign)

/-! ### Cursors -/

namespace Cursor
variable {c : Cursor} {x : Char} {text : List Char}

theorem step_rest (h : c.rest = x :: text) : c.step.rest = text := by
  simp only [step, h]

theorem steps_rest (c : Cursor) (n : Nat) : (c.steps n).rest = c.rest.drop n := by
  induction n generalizing c with
  | zero => rfl
  | succ n ih =>
    rw [steps, ih]
    cases hrest : c.rest with
    | nil => simp [step, hrest]
    | cons x text => rw [step_rest hrest, List.drop_succ_cons]

theorem stepLine_rest_of_ne (h : c.rest = x :: text) (hx : x ≠ '\r') : c.stepLine.rest = text := by
  unfold stepLine
  split
  case h_1 heq => rw [h] at heq; cases heq; exact absurd rfl hx
  case h_2 heq => rw [h] at heq; cases heq; rfl
  case h_3 heq => rw [h] at heq; cases heq

/-- A break is one character, or a carriage return and a line feed. -/
theorem stepLine_rest (h : c.rest = x :: text) : c.stepLine.rest = text ∨ text = '\n' :: c.stepLine.rest := by
  unfold stepLine
  split
  case h_1 heq => rw [h] at heq; cases heq; exact .inr rfl
  case h_2 heq => rw [h] at heq; cases heq; exact .inl rfl
  case h_3 heq => rw [h] at heq; cases heq

theorem dropWhile_rest (p : Char → Bool) (c : Cursor) : (c.dropWhile p).rest = c.rest.dropWhile p := by
  show (c.steps (c.rest.takeWhile p).length).rest = _
  rw [steps_rest]
  calc c.rest.drop (c.rest.takeWhile p).length
      = (c.rest.takeWhile p ++ c.rest.dropWhile p).drop (c.rest.takeWhile p).length := by
        rw [List.takeWhile_append_dropWhile]
    _ = c.rest.dropWhile p := List.drop_left

end Cursor

/-! ### Texts whose separators stay -/

/-- A line or paragraph separator. -/
def IsSeparator (c : Char) : Prop := c.toNat = 0x2028 ∨ c.toNat = 0x2029

instance (c : Char) : Decidable (IsSeparator c) := inferInstanceAs (Decidable (_ ∨ _))

/-- A space beside a separator, on either side. -/
def Touching (a b : Char) : Prop := (a = ' ' ∧ IsSeparator b) ∨ (IsSeparator a ∧ b = ' ')

instance (a b : Char) : Decidable (Touching a b) := inferInstanceAs (Decidable (_ ∨ _))

/-- A text in whose strings no break is folded and no space dropped: it has no next-line character, and no
space touches a separator. -/
structure Calm (text : List Char) : Prop where
  lines : ∀ c ∈ text, c.toNat ≠ 0x85
  apart : text.IsChain fun a b => ¬Touching a b

instance (text : List Char) : Decidable (Calm text) :=
  decidable_of_iff ((text.all fun c => c.toNat ≠ 0x85) ∧ text.IsChain fun a b => ¬Touching a b)
    ⟨fun h => ⟨by simpa using h.1, h.2⟩, fun h => ⟨by simpa using h.lines, h.apart⟩⟩

theorem Calm.of_append_right {pre text : List Char} (h : Calm (pre ++ text)) : Calm text :=
  ⟨fun c hc => h.lines c (List.mem_append_right _ hc), h.apart.right_of_append⟩

theorem Calm.of_append_left {text post : List Char} (h : Calm (text ++ post)) : Calm text :=
  ⟨fun c hc => h.lines c (List.mem_append_left _ hc), h.apart.left_of_append⟩

theorem Calm.tail {c : Char} {text : List Char} (h : Calm (c :: text)) : Calm text :=
  ⟨fun x hx => h.lines x (List.mem_cons_of_mem c hx), h.apart.tail⟩

/-! ### Strings -/

theorem eq_space_of_isBlank {c : Char} (h : isBlank c = true) (hcontrol : 32 ≤ c.toNat) : c = ' ' := by
  simp only [isBlank, Bool.or_eq_true, decide_eq_true_eq] at h
  rcases h with rfl | rfl
  · rfl
  · simp at hcontrol

theorem isSeparator_of_isBreak {c : Char} (h : isBreak c = true) (hcontrol : 32 ≤ c.toNat)
    (hline : c.toNat ≠ 0x85) : IsSeparator c := by
  simp only [isBreak, Bool.or_eq_true, decide_eq_true_eq] at h
  rcases h with (((rfl | rfl) | h) | h) | h
  · simp at hcontrol
  · simp at hcontrol
  · exact absurd h hline
  · exact .inl h
  · exact .inr h

/-- A gap that stands for its own characters: spaces, or separators that follow each other. What comes next
cannot turn it into another. -/
inductive Gap.Plain : Gap → List Char → Prop
  | spaces {blanks text : List Char} (h : blanks ≠ [] → ∀ x ∈ text.head?, ¬IsSeparator x) :
      Plain ⟨false, blanks, [], []⟩ text
  | separators {first later text : List Char} (hfirst : first ≠ ['\n']) (h : ∀ x ∈ text.head?, x ≠ ' ') :
      Plain ⟨true, [], first, later⟩ text

namespace Gap
variable {margin fuel : Nat} {gap gap' : Gap} {c c' : Cursor} {x : Char} {text : List Char}

theorem read?_cons (h : c.rest = x :: text) :
    read? margin (fuel + 1) gap c =
      if isBlank x then
        if gap.broken ∧ c.column < margin ∧ x = '\t' then Option.none
        else read? margin fuel (gap.addBlank x) c.step
      else if isBreak x then read? margin fuel (gap.addBreak c.lineBreak) c.stepLine
      else some (gap, c) := by
  rw [read?]
  simp only [h]

theorem lineBreak_of_separator (h : c.rest = x :: text) (hx : IsSeparator x) : c.lineBreak = [x] := by
  unfold Cursor.lineBreak
  rw [h]
  exact if_pos hx

theorem fold_separators {first later : List Char} (hfirst : first ≠ ['\n']) :
    (⟨true, [], first, later⟩ : Gap).fold = first ++ later := by
  simp [fold, hfirst]

/-- One space more. -/
theorem Plain.addBlank (h : gap.Plain (' ' :: text)) (hnext : ∀ y ∈ text.head?, ¬IsSeparator y) :
    (gap.addBlank ' ').Plain text ∧ (gap.addBlank ' ').fold = gap.fold ++ [' '] := by
  cases h with
  | @spaces blanks _ h => exact ⟨.spaces fun _ => hnext, rfl⟩
  | separators hfirst h => exact absurd rfl (h ' ' rfl)

/-- One separator more. -/
theorem Plain.addBreak (h : gap.Plain (x :: text)) (hx : IsSeparator x) (hnext : ∀ y ∈ text.head?, y ≠ ' ') :
    (gap.addBreak [x]).Plain text ∧ (gap.addBreak [x]).fold = gap.fold ++ [x] := by
  have hline : [x] ≠ ['\n'] := by
    rintro heq
    cases heq
    simp [IsSeparator] at hx
  cases h with
  | @spaces blanks _ h =>
    by_cases hblanks : blanks = []
    · subst hblanks
      exact ⟨.separators hline hnext, fold_separators hline⟩
    · exact absurd hx (h hblanks x rfl)
  | @separators first later _ hfirst h =>
    refine ⟨.separators hfirst hnext, ?_⟩
    rw [fold_separators hfirst]
    show (⟨true, [], first, later ++ [x]⟩ : Gap).fold = _
    rw [fold_separators hfirst, List.append_assoc]

/-- A space or a separator of a calm string is one character more of its gap. -/
theorem Plain.read?_eq {rest : List Char} (hgap : gap.Plain (x :: text)) (hcalm : Calm (x :: text))
    (hcontrol : 32 ≤ x.toNat) (hx : isBlank x = true ∨ isBreak x = true) (htext : c.rest = x :: (text ++ rest)) :
    ∃ next after, read? margin (fuel + 1) gap c = read? margin fuel next after ∧ after.rest = text ++ rest ∧
      next.Plain text ∧ next.fold = gap.fold ++ [x] := by
  have hnext := hcalm.apart.rel_head?
  rw [read?_cons htext]
  by_cases hblank : isBlank x = true
  · obtain rfl := eq_space_of_isBlank hblank hcontrol
    have hfirst : ∀ y ∈ text.head?, ¬IsSeparator y := fun y hy hsep => hnext hy (.inl ⟨rfl, hsep⟩)
    obtain ⟨hplain, hfold⟩ := hgap.addBlank hfirst
    refine ⟨_, _, ?_, Cursor.step_rest htext, hplain, hfold⟩
    rw [if_pos hblank, if_neg (by simp)]
  · have hbreak := hx.resolve_left hblank
    have hsep := isSeparator_of_isBreak hbreak hcontrol (hcalm.lines x List.mem_cons_self)
    have hfirst : ∀ y ∈ text.head?, y ≠ ' ' := fun y hy hspace => hnext hy (.inr ⟨hsep, hspace⟩)
    have hreturn : x ≠ '\r' := by rintro rfl; simp [IsSeparator] at hsep
    obtain ⟨hplain, hfold⟩ := hgap.addBreak hsep hfirst
    refine ⟨_, _, ?_, Cursor.stepLine_rest_of_ne htext hreturn, hplain, hfold⟩
    rw [if_neg hblank, if_pos hbreak, lineBreak_of_separator htext hsep]

/-- A gap in a calm string is read as the characters it has. -/
theorem read?_raw {raw chars rest : List Char} (hraw : Raw raw chars) (hcalm : Calm raw) (hgap : gap.Plain raw)
    (htext : c.rest = raw ++ '"' :: rest) (h : read? margin fuel gap c = some (gap', c')) :
    ∃ taken raw' chars', raw = taken ++ raw' ∧ chars = taken ++ chars' ∧ Raw raw' chars' ∧
      c'.rest = raw' ++ '"' :: rest ∧ gap'.fold = gap.fold ++ taken := by
  induction fuel generalizing gap c raw chars with
  | zero => cases h
  | succ fuel ih =>
    cases hraw with
    | nil =>
      rw [read?_cons htext] at h
      cases h
      exact ⟨[], [], [], rfl, rfl, .nil, htext, by simp⟩
    | @escape escape x raw chars hescape hraw =>
      rw [read?_cons htext] at h
      cases h
      exact ⟨[], _, _, rfl, rfl, .escape hescape hraw, htext, by simp⟩
    | @char x raw chars hcontrol hquote hslash hraw =>
      by_cases hx : isBlank x = true ∨ isBreak x = true
      · obtain ⟨next, after, hstep, hafter, hplain, hfold⟩ := hgap.read?_eq hcalm hcontrol hx htext
        rw [hstep] at h
        obtain ⟨taken, raw', chars', rfl, rfl, hraw', htext', hfold'⟩ := ih hraw hcalm.tail hplain hafter h
        exact ⟨x :: taken, raw', chars', rfl, rfl, hraw', htext', by rw [hfold', hfold]; simp⟩
      · obtain ⟨hblank, hbreak⟩ := not_or.1 hx
        rw [read?_cons htext, if_neg hblank, if_neg hbreak] at h
        cases h
        exact ⟨[], _, _, rfl, rfl, .char hcontrol hquote hslash hraw, htext, by simp⟩

end Gap

section Quoted
variable {fuel size : Nat} {c stop : Cursor} {x value : Char} {escape raw chars done found rest : List Char}

/-- An escape of JSON begins with a letter or a sign. -/
theorem isBreak_of_escape (h : Escape escape x) : ∃ sign signs, escape = sign :: signs ∧ isBreak sign = false := by
  cases h with
  | letter hmem =>
    refine ⟨_, _, rfl, ?_⟩
    simp only [Json.letterEscapes, List.mem_cons, Prod.mk.injEq, List.not_mem_nil, or_false] at hmem
    rcases hmem with h | h | h | h | h | h | h | h <;> obtain ⟨rfl, -⟩ := h <;> rfl
  | code => exact ⟨_, _, rfl, rfl⟩
  | pair => exact ⟨_, _, rfl, rfl⟩

theorem readCode?_append (count : Nat) (hcount : escape.length = count) :
    readCode? count (escape ++ rest) = do
      return (← charOfCode? (← ofHexDigits? escape), rest) := by
  subst hcount
  simp [readCode?]

/-- A surrogate is no character of its own. -/
theorem charOfCode?_high {code : Nat} (h : Json.isHighSurrogate code = true) : charOfCode? code = none := by
  simp only [Json.isHighSurrogate, Bool.and_eq_true, decide_eq_true_eq] at h
  refine if_neg fun hvalid => ?_
  simp only [Nat.isValidChar] at hvalid
  omega

/-- An escape of JSON means the same character, unless it takes two surrogates: then it is refused. -/
theorem readEscape?_escape (hescape : Escape escape x) (h : readEscape? (escape ++ rest) = some (value, size)) :
    value = x ∧ size = escape.length := by
  cases hescape with
  | letter hmem =>
    simp only [Json.letterEscapes, List.mem_cons, Prod.mk.injEq, List.not_mem_nil, or_false] at hmem
    rcases hmem with h' | h' | h' | h' | h' | h' | h' | h' <;> obtain ⟨rfl, rfl⟩ := h' <;> cases h <;>
      exact ⟨rfl, rfl⟩
  | @code digits code hcount hcode hhigh hlow =>
    simp only [List.cons_append, readEscape?, readCode?_append 4 hcount, hcode] at h
    cases hchar : charOfCode? code with
    | none => simp [hchar] at h
    | some meant =>
      have hmeant : meant = Char.ofNat code := by
        unfold charOfCode? at hchar
        split_ifs at hchar
        exact (Option.some.inj hchar).symm
      simp only [hchar, Option.bind_eq_bind, Option.bind_some, Option.pure_def, Option.map_some,
        Option.some.injEq, Prod.mk.injEq] at h
      obtain ⟨rfl, rfl⟩ := h
      exact ⟨hmeant, by simp [hcount]⟩
  | @pair digits others first second _ hcount hfirst hhigh hothers hsecond =>
    simp only [List.cons_append, List.append_assoc, readEscape?, readCode?_append 4 hcount, hfirst] at h
    simp [charOfCode?_high hhigh] at h

/-- What is read of a string from a character on, if that is read. -/
theorem readQuoted?_cons (htext : c.rest = x :: rest) (h : readQuoted? '"' (fuel + 1) done c = some (found, stop)) :
    (if isBlank x ∨ isBreak x then do
        let (gap, c) ← Gap.read? 0 (c.rest.length + 1) .none c
        readQuoted? '"' fuel (gap.fold.reverse ++ done) c
      else if x = '"' then some (done.reverse, c.step)
      else if x = '\\' then
        if (rest.head?.map isBreak).getD false then do
          let c := c.step.stepLine
          let (gap, c) ← Gap.read? 0 (c.rest.length + 1) .escaped c
          readQuoted? '"' fuel (gap.fold.reverse ++ done) c
        else do
          let (value, size) ← readEscape? rest
          readQuoted? '"' fuel (value :: done) (c.steps (size + 1))
      else readQuoted? '"' fuel (x :: done) c.step) = some (found, stop) := by
  rw [readQuoted?] at h
  simp only [htext, Char.reduceEq, false_and, if_false, and_true] at h
  by_cases hmarker : c.column = 0 ∧ startsDocumentMarker (x :: rest) = true
  · rw [if_pos hmarker] at h
    cases h
  · rw [if_neg hmarker] at h
    simpa only [htext] using h

/-- An escape of JSON that is read gives its character. -/
theorem readQuoted?_escape (hescape : Escape escape x) (htext : c.rest = '\\' :: (escape ++ rest))
    (h : readQuoted? '"' (fuel + 1) done c = some (found, stop)) :
    readQuoted? '"' fuel (x :: done) (c.steps (escape.length + 1)) = some (found, stop) := by
  have hread := readQuoted?_cons htext h
  obtain ⟨sign, signs, rfl, hsign⟩ := isBreak_of_escape hescape
  rw [if_neg (by simp [isBlank, isBreak]), if_neg (by simp), if_pos rfl] at hread
  simp only [List.cons_append, List.head?_cons, Option.map_some, hsign, Option.getD_some, Bool.false_eq_true,
    if_false] at hread
  obtain ⟨⟨value, size⟩, hvalue, hrest⟩ := Option.bind_eq_some_iff.1 hread
  rw [← List.cons_append] at hvalue
  obtain ⟨rfl, rfl⟩ := readEscape?_escape hescape hvalue
  exact hrest

/-- A calm string of JSON that is read means the same characters. -/
theorem readQuoted?_raw (hraw : Raw raw chars) (hcalm : Calm raw) (htext : c.rest = raw ++ '"' :: rest)
    (h : readQuoted? '"' fuel done c = some (found, stop)) :
    found = done.reverse ++ chars ∧ stop.rest = rest := by
  induction fuel generalizing raw chars done c with
  | zero => cases h
  | succ fuel ih =>
    cases hraw with
    | nil =>
      have hread := readQuoted?_cons htext h
      rw [if_neg (by simp [isBlank, isBreak]), if_pos rfl] at hread
      cases hread
      exact ⟨by simp, Cursor.step_rest htext⟩
    | @escape escape x raw chars hescape hraw =>
      have htext' : c.rest = '\\' :: (escape ++ (raw ++ '"' :: rest)) := by simpa using htext
      have hafter : (c.steps (escape.length + 1)).rest = raw ++ '"' :: rest := by
        rw [Cursor.steps_rest, htext']
        simp
      obtain ⟨rfl, hstop⟩ := ih hraw hcalm.of_append_right hafter (readQuoted?_escape hescape htext' h)
      exact ⟨by simp, hstop⟩
    | @char x raw chars hcontrol hquote hslash hraw =>
      have hread := readQuoted?_cons htext h
      by_cases hgap : isBlank x = true ∨ isBreak x = true
      · rw [if_pos hgap] at hread
        obtain ⟨⟨gap, after⟩, hafter, hrest⟩ := Option.bind_eq_some_iff.1 hread
        obtain ⟨taken, raw', chars', hraw', hchars', hmeans, hafter', hfold⟩ :=
          Gap.read?_raw (.char hcontrol hquote hslash hraw) hcalm (.spaces fun hne => absurd rfl hne) htext hafter
        have hcalm' : Calm raw' := Calm.of_append_right (hraw' ▸ hcalm)
        obtain ⟨rfl, hstop⟩ := ih hmeans hcalm' hafter' hrest
        refine ⟨?_, hstop⟩
        rw [hchars', hfold]
        simp [Gap.fold]
      · rw [if_neg hgap, if_neg hquote, if_neg hslash] at hread
        obtain ⟨rfl, hstop⟩ := ih hraw hcalm.tail (Cursor.step_rest htext) hread
        exact ⟨by simp, hstop⟩

end Quoted

/-! ### What is ahead -/

/-- The lexemes of a text in which no break is folded. -/
structure Ahead (lexemes : List Lexeme) (text : List Char) : Prop where
  spaced : Spaced lexemes text
  calm : Calm text

theorem toNat_of_isAlphanum {c : Char} (h : c.isAlphanum = true) : 48 ≤ c.toNat ∧ c.toNat ≤ 122 := by
  have htoNat : c.toNat = c.val.toNat := rfl
  simp [Char.isAlphanum, Char.isAlpha, Char.isUpper, Char.isLower, Char.isDigit, UInt32.le_iff_toNat_le] at h
  omega

/-- The signs that begin a lexeme which is no word, and the one that may begin a word. -/
def lexemeSigns : List Char := ['[', ']', '\x7b', '\x7d', ',', ':', '"', '-']

/-- A lexeme is never empty, and one character tells that it is one. -/
theorem spelled_head {lexeme : Lexeme} {chars : List Char} (h : Spelled lexeme chars) :
    ∃ x more, chars = x :: more ∧ (x ∈ lexemeSigns ∨ x.isAlphanum = true) := by
  cases h with
  | opening bracket => exact ⟨_, _, rfl, .inl (by cases bracket <;> simp [lexemeSigns, Json.Bracket.opener])⟩
  | closing bracket => exact ⟨_, _, rfl, .inl (by cases bracket <;> simp [lexemeSigns, Json.Bracket.closer])⟩
  | comma => exact ⟨_, _, rfl, .inl (by simp [lexemeSigns])⟩
  | colon => exact ⟨_, _, rfl, .inl (by simp [lexemeSigns])⟩
  | quoted => exact ⟨_, _, rfl, .inl (by simp [lexemeSigns])⟩
  | word hword =>
    obtain ⟨x, more, rfl, hx | ⟨rfl, -⟩⟩ := hword.head
    · exact ⟨x, more, rfl, .inr hx⟩
    · exact ⟨'-', more, rfl, .inl (by simp [lexemeSigns])⟩

theorem isBlank_eq_false {x : Char} (h : 32 < x.toNat) : isBlank x = false := by
  simp only [isBlank, Bool.or_eq_false_iff, decide_eq_false_iff_not]
  constructor <;> rintro rfl <;> simp at h

/-- No visible character of ASCII is a break. -/
theorem isBreak_eq_false {x : Char} (hlow : 32 < x.toNat) (hhigh : x.toNat < 0x85) : isBreak x = false := by
  simp only [isBreak, Bool.or_eq_false_iff, decide_eq_false_iff_not]
  refine ⟨⟨⟨⟨?_, ?_⟩, by omega⟩, by omega⟩, by omega⟩ <;> rintro rfl <;> simp at hlow

/-- No lexeme begins with a blank, a break, a comment or a byte order mark. -/
theorem lexeme_no_gap {x : Char} (h : x ∈ lexemeSigns ∨ x.isAlphanum = true) :
    isBlank x = false ∧ isBreak x = false ∧ x ≠ '#' ∧ x ≠ byteOrderMark := by
  have hrange : 32 < x.toNat ∧ x.toNat < 0x85 ∧ x ≠ '#' := by
    rcases h with h | h
    · simp only [lexemeSigns, List.mem_cons, List.not_mem_nil, or_false] at h
      rcases h with rfl | rfl | rfl | rfl | rfl | rfl | rfl | rfl <;> simp
    · have hcode := toNat_of_isAlphanum h
      refine ⟨by omega, by omega, ?_⟩
      rintro rfl
      simp at hcode
  obtain ⟨hlow, hhigh, hcomment⟩ := hrange
  refine ⟨isBlank_eq_false hlow, isBreak_eq_false hlow hhigh, hcomment, ?_⟩
  rintro rfl
  simp [byteOrderMark] at hhigh

theorem gap_of_blank {x : Char} (h : Json.isBlank x = true) : isBlank x = true ∨ isBreak x = true := by
  simp only [Json.isBlank, Bool.or_eq_true, decide_eq_true_eq] at h
  rcases h with ((rfl | rfl) | rfl) | rfl <;> simp [isBlank, isBreak]

namespace Ahead
variable {lexemes : List Lexeme} {x : Char} {text : List Char}

/-- Neither a byte order mark nor a comment comes next. -/
theorem no_mark (h : Ahead lexemes text) : text.head? ≠ some byteOrderMark ∧ text.head? ≠ some '#' := by
  cases h.spaced with
  | nil => simp
  | @blank x _ text hblank =>
    simp only [Json.isBlank, Bool.or_eq_true, decide_eq_true_eq] at hblank
    rcases hblank with ((rfl | rfl) | rfl) | rfl <;> exact ⟨by simp [byteOrderMark], by simp⟩
  | lexeme hlexeme =>
    obtain ⟨x, more, rfl, hx⟩ := spelled_head hlexeme
    obtain ⟨-, -, hcomment, hmark⟩ := lexeme_no_gap hx
    exact ⟨fun heq => hmark (Option.some.inj heq), fun heq => hcomment (Option.some.inj heq)⟩

/-- Blanks and breaks between lexemes may be passed over. -/
theorem tail (h : Ahead lexemes (x :: text)) (hx : isBlank x = true ∨ isBreak x = true) : Ahead lexemes text := by
  refine ⟨?_, h.calm.tail⟩
  generalize hwhole : x :: text = whole at h
  cases h.spaced with
  | nil => cases hwhole
  | blank _ hspaced =>
    cases hwhole
    exact hspaced
  | lexeme hlexeme hspaced =>
    obtain ⟨y, more, rfl, hy⟩ := spelled_head hlexeme
    cases hwhole
    obtain ⟨hblank, hbreak, -, -⟩ := lexeme_no_gap hy
    simp [hblank, hbreak] at hx

theorem stepLine {c : Cursor} (h : Ahead lexemes c.rest) (htext : c.rest = x :: text) (hx : isBreak x = true) :
    Ahead lexemes c.stepLine.rest := by
  have hafter := (htext ▸ h : Ahead lexemes (x :: text)).tail (.inr hx)
  rcases Cursor.stepLine_rest htext with hrest | hrest
  · rwa [hrest]
  · exact (hrest ▸ hafter : Ahead lexemes ('\n' :: c.stepLine.rest)).tail (.inr rfl)

theorem dropWhile (h : Ahead lexemes text) {p : Char → Bool} (hp : ∀ x, p x = true → isBlank x = true) :
    Ahead lexemes (text.dropWhile p) := by
  induction text with
  | nil => exact h
  | cons x text ih =>
    by_cases hx : p x = true
    · rw [List.dropWhile_cons_of_pos hx]
      exact ih (h.tail (.inl (hp x hx)))
    · rwa [List.dropWhile_cons_of_neg hx]

/-- A gap between lexemes is passed over. -/
theorem gap {margin fuel : Nat} {gap gap' : Gap} {c c' : Cursor} (h : Ahead lexemes c.rest)
    (hgap : Gap.read? margin fuel gap c = some (gap', c')) : Ahead lexemes c'.rest := by
  induction fuel generalizing gap c with
  | zero => cases hgap
  | succ fuel ih =>
    cases htext : c.rest with
    | nil =>
      rw [Gap.read?] at hgap
      simp only [htext, Option.some.injEq, Prod.mk.injEq] at hgap
      obtain ⟨-, rfl⟩ := hgap
      exact h
    | cons x text =>
      rw [Gap.read?_cons htext] at hgap
      split_ifs at hgap with hblank hmargin hbreak
      · refine ih ?_ hgap
        rw [Cursor.step_rest htext]
        exact (htext ▸ h : Ahead lexemes (x :: text)).tail (.inl hblank)
      · exact ih (h.stepLine htext hbreak) hgap
      · cases hgap
        exact h

end Ahead

/-! ### Words -/

/-- A word may end here: in a flow collection before a comma or a closing bracket, elsewhere at the end. -/
def EndsWord (flow : Bool) : List Lexeme → Prop
  | [] => True
  | .comma :: _ => flow = true
  | .closing _ :: _ => flow = true
  | _ => False

/-- A blank, a break, the end or, in a flow collection, an indicator comes next. -/
def StopsRun (flow : Bool) (text : List Char) : Prop :=
  ∀ x ∈ text.head?, isBlank x = true ∨ isBreak x = true ∨ flow = true ∧ isFlowIndicator x = true

theorem stopsRun_of_ends {flow : Bool} {lexemes : List Lexeme} {text : List Char} (h : Spaced lexemes text)
    (hends : EndsWord flow lexemes) : StopsRun flow text := by
  cases h with
  | nil => rintro x ⟨⟩
  | blank hblank =>
    rintro x ⟨⟩
    exact (gap_of_blank hblank).imp_right .inl
  | lexeme hlexeme =>
    cases hlexeme with
    | comma =>
      rintro x ⟨⟩
      exact .inr (.inr ⟨hends, rfl⟩)
    | closing bracket =>
      rintro x ⟨⟩
      exact .inr (.inr ⟨hends, by cases bracket <;> rfl⟩)
    | opening => exact hends.elim
    | colon => exact hends.elim
    | word => exact hends.elim
    | quoted => exact hends.elim

theorem startsMarker_of_ne {sign x : Char} {text : List Char} (h : x ≠ sign) :
    startsMarker sign (x :: text) = false := by
  unfold startsMarker
  split
  · next heq =>
    cases heq
    simp [h]
  · rfl

theorem startsMarker_of_second_ne {sign x d : Char} {text : List Char} (h : d ≠ sign) :
    startsMarker sign (x :: d :: text) = false := by
  unfold startsMarker
  split
  · next heq =>
    cases heq
    simp [h]
  · rfl

/-- No word begins with the sign of a document marker or of a comment. -/
theorem word_no_marker {word : List Char} (h : IsWord word) (rest : List Char) :
    startsMarker '-' (word ++ rest) = false ∧ startsMarker '.' (word ++ rest) = false ∧
      (word ++ rest).head? ≠ some '#' := by
  obtain ⟨x, more, rfl, hx | ⟨rfl, d, digits, rfl, hd⟩⟩ := h.head
  · have hne : ∀ y : Char, y.isAlphanum = false → x ≠ y := by
      rintro y hy rfl
      exact absurd hx (by simp [hy])
    refine ⟨startsMarker_of_ne (hne _ rfl), startsMarker_of_ne (hne _ rfl), ?_⟩
    simpa using hne '#' rfl
  · have hne : d ≠ '-' := by rintro rfl; cases hd
    exact ⟨startsMarker_of_second_ne hne, startsMarker_of_ne (by simp), by simp⟩

section Words
variable {flow : Bool} {margin fuel : Nat} {c next stop : Cursor} {word rest done run : List Char}
  {lexemes : List Lexeme} {gap : Gap} {scalar : PlainScalar}

/-- No sign of a word ends a scalar. -/
theorem wordSign_continues {x : Char} (h : isWordSign x = true) :
    isBlank x = false ∧ isBreak x = false ∧ x ≠ ':' ∧ isFlowIndicator x = false := by
  have hne : ∀ y, isWordSign y = false → x ≠ y := by
    rintro y hy rfl
    exact absurd h (by simp [hy])
  have hcode : 32 < x.toNat ∧ x.toNat < 0x85 := by
    simp only [isWordSign, Bool.or_eq_true, decide_eq_true_eq] at h
    rcases h with ((h | rfl) | rfl) | rfl
    · have := toNat_of_isAlphanum h
      omega
    all_goals simp
  refine ⟨isBlank_eq_false hcode.1, isBreak_eq_false hcode.1 hcode.2, hne ':' rfl, ?_⟩
  simp [isFlowIndicator, hne ',' rfl, hne '[' rfl, hne ']' rfl, hne '\x7b' rfl, hne '\x7d' rfl]

theorem readRun?_word (hword : ∀ x ∈ word, isWordSign x = true) (htext : c.rest = word ++ rest)
    (hstops : StopsRun flow rest) (h : readRun? flow fuel done c = some (run, next)) :
    run = word.reverse ++ done ∧ next.rest = rest := by
  induction fuel generalizing word done c with
  | zero => cases h
  | succ fuel ih =>
    rw [readRun?] at h
    cases word with
    | cons x word =>
      obtain ⟨hblank, hbreak, hcolon, hindicator⟩ := wordSign_continues (hword x List.mem_cons_self)
      rw [List.cons_append] at htext
      simp only [htext, hblank, hbreak, hcolon, hindicator, Bool.false_eq_true, or_self, false_and, and_false,
        if_false] at h
      obtain ⟨rfl, hnext⟩ := ih (fun y hy => hword y (List.mem_cons_of_mem x hy)) (Cursor.step_rest htext) h
      exact ⟨by simp, hnext⟩
    | nil =>
      rw [List.nil_append] at htext
      have hended : some (done, c) = some (run, next) := by
        cases rest with
        | nil => simpa only [htext] using h
        | cons x rest =>
          simp only [htext] at h
          rcases or_assoc.2 (hstops x rfl) with hgap | ⟨hflow, hindicator⟩
          · rwa [if_pos hgap] at h
          · have hcolon : x ≠ ':' := by rintro rfl; cases hindicator
            simpa only [hflow, hindicator, hcolon, false_and, and_false, if_false, and_self, or_true, if_true,
              ite_self] using h
      cases hended
      exact ⟨rfl, htext⟩

/-- Where no run begins a scalar has ended. -/
theorem readPlain?_stops (hstops : StopsRun flow c.rest) (h : readPlain? flow margin fuel done gap stop c = some scalar) :
    scalar = ⟨done.reverse, stop, c, gap.broken⟩ := by
  cases fuel with
  | zero => cases h
  | succ fuel =>
    rw [readPlain?] at h
    split_ifs at h with hended
    · exact (Option.some.inj h).symm
    · obtain ⟨⟨run, next⟩, hrun, hread⟩ := Option.bind_eq_some_iff.1 h
      have hempty : ∀ x ∈ ([] : List Char), isWordSign x = true := by simp
      obtain ⟨rfl, -⟩ := readRun?_word hempty rfl hstops hrun
      exact (Option.some.inj hread).symm

/-- A word that is read keeps its characters. -/
theorem readPlain?_word (hword : IsWord word) (htext : c.rest = word ++ rest) (hahead : Ahead lexemes rest)
    (hends : EndsWord flow lexemes) (h : readPlain? flow margin fuel [] .none stop c = some scalar) :
    scalar.chars = word ∧ Ahead lexemes scalar.after.rest := by
  cases fuel with
  | zero => cases h
  | succ fuel =>
    rw [readPlain?] at h
    obtain ⟨hhyphens, hdots, hcomment⟩ := word_no_marker hword rest
    rw [htext, startsDocumentMarker, hhyphens, hdots] at h
    split_ifs at h with hended
    · rcases hended with ⟨-, hmarker⟩ | hhash
      · cases hmarker
      · exact absurd hhash hcomment
    · obtain ⟨⟨run, next⟩, hrun, hread⟩ := Option.bind_eq_some_iff.1 h
      obtain ⟨rfl, hnext⟩ := readRun?_word hword.signs htext (stopsRun_of_ends hahead.spaced hends) hrun
      rw [List.append_nil] at hread
      obtain ⟨x, more, hx, -⟩ := hword.head
      have hne : (word.reverse).isEmpty = false := by simp [hx]
      simp only [hne, Bool.false_eq_true, if_false] at hread
      obtain ⟨⟨gap, after⟩, hgap, hrest⟩ := Option.bind_eq_some_iff.1 hread
      have hafter : Ahead lexemes after.rest := (hnext ▸ hahead : Ahead lexemes next.rest).gap hgap
      dsimp only at hrest
      split_ifs at hrest with hstop
      · cases hrest
        exact ⟨by simp [Gap.none, Gap.fold], hafter⟩
      · rw [readPlain?_stops (stopsRun_of_ends hafter.spaced hends) hrest]
        exact ⟨by simp [Gap.none, Gap.fold], hafter⟩

end Words

end AddonConfig.Yaml
