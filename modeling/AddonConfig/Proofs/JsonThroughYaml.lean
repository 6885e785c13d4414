import AddonConfig.Proofs.FlowNodes
import AddonConfig.Proofs.ShortNumerals
import AddonConfig.Source.Load

/-!
# JSON text through the YAML reader

A JSON file is read as YAML first. `json_text_read_faithfully` says when that gives the value of the JSON text:
where no break in a string is folded and the numerals that are no integers mean the same to both readers, as all
short ones do (`short_json_text_read_faithfully`). Integers always do (`integer_agrees`), but `-0` is none to a JSON
reader (`minus_zero_read_as_integer`).
-/

namespace AddonConfig
open Yaml

namespace Json

/-! ### The words of a text -/

/-- Where a character of a JSON text stands: outside of strings, in one or after a backslash there. -/
inductive Region where
  | code
  | string
  | escape
  deriving DecidableEq

/-- The region after a character. -/
def Region.next : Region → Char → Region
  | .code, c => if c = '"' then .string else .code
  | .string, c => if c = '"' then .code else if c = '\\' then .escape else .string
  | .escape, _ => .string

/-- The keywords and numerals of a text: the runs of their signs outside of strings. `run` is the run that goes
on, its last character first. -/
def words : Region → List Char → List Char → List (List Char)
  | _, run, [] => if run.isEmpty then [] else [run.reverse]
  | region, run, c :: text =>
      if region = .code ∧ isWordSign c then words region (c :: run) text
      else if run.isEmpty then words (region.next c) [] text
      else run.reverse :: words (region.next c) [] text

section Words
variable {run chars raw escape text : List Char} {c : Char} {region : Region}

theorem words_code (h : isWordSign c = false) : words .code [] (c :: text) = words (Region.code.next c) [] text := by
  simp [words, h]

/-- Neither a word nor a string begins with the sign. -/
theorem words_sign (h : isWordSign c = false) (hquote : c ≠ '"') :
    words .code [] (c :: text) = words .code [] text := by
  rw [words_code h, Region.next, if_neg hquote]

theorem words_string : words .string [] (c :: text) = words (Region.string.next c) [] text := by
  simp [words]

theorem words_escape : words .escape [] (c :: text) = words .string [] text := by
  simp [words, Region.next]

theorem words_run (h : ∀ c ∈ chars, isWordSign c = true) :
    words .code run (chars ++ text) = words .code (chars.reverse ++ run) text := by
  induction chars generalizing run with
  | nil => rfl
  | cons c chars ih =>
    rw [List.cons_append, words, if_pos ⟨rfl, h c List.mem_cons_self⟩, ih fun x hx => h x (List.mem_cons_of_mem c hx)]
    simp

/-- A run ends before another sign or the end. -/
theorem words_stop (hrun : run ≠ []) (h : ∀ c ∈ text.head?, isWordSign c = false) :
    words .code run text = run.reverse :: words .code [] text := by
  cases text with
  | nil => simp [words, hrun]
  | cons c text =>
    have hc := h c rfl
    simp [words, hc, hrun]

theorem words_word (hne : chars ≠ []) (hchars : ∀ c ∈ chars, isWordSign c = true)
    (h : ∀ c ∈ text.head?, isWordSign c = false) : words .code [] (chars ++ text) = chars :: words .code [] text := by
  rw [words_run hchars, List.append_nil, words_stop (by simpa using hne) h, List.reverse_reverse]

/-- Inside a string nothing but a quote and a backslash counts. -/
theorem words_inside (h : ∀ c ∈ chars, c ≠ '"' ∧ c ≠ '\\') :
    words .string [] (chars ++ text) = words .string [] text := by
  induction chars with
  | nil => rfl
  | cons c chars ih =>
    obtain ⟨hquote, hslash⟩ := h c List.mem_cons_self
    rw [List.cons_append, words_string, Region.next, if_neg hquote, if_neg hslash]
    exact ih fun x hx => h x (List.mem_cons_of_mem c hx)

theorem hexDigits_plain {code : Nat} (h : ofHexDigits? chars = some code) : ∀ c ∈ chars, c ≠ '"' ∧ c ≠ '\\' := by
  have hfold : ∀ (rest : List Char) (start code : Nat),
      rest.foldlM (fun n c => (hexValue? c).map (n * 16 + ·)) start = some code → ∀ c ∈ rest, c ≠ '"' ∧ c ≠ '\\' := by
    intro rest
    induction rest with
    | nil => simp
    | cons c rest ih =>
      intro start code hcode x hx
      rw [List.foldlM_cons] at hcode
      obtain ⟨sum, hsum, hrest⟩ := Option.bind_eq_some_iff.1 hcode
      rcases List.mem_cons.1 hx with rfl | hx
      · obtain ⟨value, hvalue, -⟩ := Option.map_eq_some_iff.1 hsum
        constructor <;> rintro rfl <;> cases hvalue
      · exact ih sum code hrest x hx
  exact hfold chars 0 code h

/-- An escape is part of its string. -/
theorem words_escaped (h : Escape escape c) : words .escape [] (escape ++ text) = words .string [] text := by
  cases h with
  | letter => exact words_escape
  | code hcount hcode =>
    rw [List.cons_append, words_escape]
    exact words_inside (hexDigits_plain hcode)
  | pair _ _ hfirst _ _ hsecond =>
    simp only [List.cons_append, List.append_assoc]
    rw [words_escape, words_inside (hexDigits_plain hfirst), words_string]
    simp only [Region.next, Char.reduceEq, if_false, if_true]
    rw [words_escape]
    exact words_inside (hexDigits_plain hsecond)

theorem words_raw (h : Raw raw chars) : words .string [] (raw ++ '"' :: text) = words .code [] text := by
  induction h with
  | nil => exact words_string
  | char _ hquote hslash _ ih =>
    rw [List.cons_append, words_string, Region.next, if_neg hquote, if_neg hslash]
    exact ih
  | escape hescape _ ih =>
    simp only [List.cons_append, List.append_assoc]
    rw [words_string]
    simp only [Region.next, Char.reduceEq, if_false, if_true]
    rw [words_escaped hescape]
    exact ih

/-- What may follow a word begins with no sign of it. -/
theorem not_wordSign_of_ends {lexemes : List Lexeme} {flow : Bool} (h : Spaced lexemes text)
    (hends : EndsWord flow lexemes) : ∀ c ∈ text.head?, isWordSign c = false := by
  intro c hc
  by_contra hsign
  obtain ⟨hblank, hbreak, -, hindicator⟩ := wordSign_continues (Bool.eq_true_of_not_eq_false hsign)
  simpa [hblank, hbreak, hindicator] using stopsRun_of_ends h hends c hc

/-- Every keyword and numeral of a text is among its words. -/
theorem mem_words {lexemes : List Lexeme} {levels : Nat} {turn : Turn} (h : Spaced lexemes text)
    (hlegal : Legal levels turn lexemes) (hmem : .word chars ∈ lexemes) : chars ∈ words .code [] text := by
  induction h generalizing levels turn with
  | nil => cases hmem
  | @blank c lexemes text hblank _ ih =>
    have hc : isWordSign c = false ∧ c ≠ '"' := by
      simp only [isBlank, Bool.or_eq_true, decide_eq_true_eq] at hblank
      rcases hblank with ((rfl | rfl) | rfl) | rfl <;> simp [isWordSign]
    rw [words_sign hc.1 hc.2]
    exact ih hlegal hmem
  | @lexeme lexeme spelling lexemes text hlexeme h ih =>
    cases hlexeme with
    | opening bracket =>
      rw [List.singleton_append, words_sign (by cases bracket <;> rfl) (by cases bracket <;> simp [Bracket.opener])]
      exact ih hlegal.of_opening (by simpa using hmem)
    | closing bracket =>
      rw [List.singleton_append, words_sign (by cases bracket <;> rfl) (by cases bracket <;> simp [Bracket.closer])]
      exact ih hlegal.of_closing.2 (by simpa using hmem)
    | comma =>
      rw [List.singleton_append, words_sign rfl (by simp)]
      exact ih hlegal.of_comma.2 (by simpa using hmem)
    | colon =>
      rw [List.singleton_append, words_sign rfl (by simp)]
      exact ih hlegal.of_colon.2.2 (by simpa using hmem)
    | @word word hword =>
      obtain ⟨hends, hrest⟩ := hlegal.of_word
      obtain ⟨sign, signs, hne, -⟩ := hword.head
      rw [words_word (by simp [hne]) hword.signs (not_wordSign_of_ends h hends)]
      rcases List.mem_cons.1 hmem with hsame | hmem
      · cases hsame
        exact List.mem_cons_self
      · exact List.mem_cons_of_mem _ (ih hrest hmem)
    | quoted hraw =>
      rw [List.append_assoc, List.cons_append, words_code rfl]
      simp only [Region.next, if_true, List.singleton_append]
      rw [words_raw hraw]
      exact ih hlegal.of_quoted (by simpa using hmem)

end Words

end Json

/-! ### Whole texts -/

/-- The numerals that JSON reads as floating point numbers YAML reads as the same numbers. -/
def FloatsAgree (text : List Char) : Prop :=
  ∀ word ∈ Json.words .code [] text, ∀ x, Json.readNumber word = .ok (.float x, []) →
    Located.ofDatum (Datum.ofPlain (String.ofList word)) = .num (.float x)

theorem FloatsAgree.wordsAgree {content : String} {lexemes : List Json.Lexeme} {value : Json}
    (h : FloatsAgree content.toList) (hspaced : Json.Spaced lexemes content.toList)
    (hspells : Json.Spells (.value value) lexemes) : Node.WordsAgree lexemes := by
  intro chars meant hmem hmeans
  cases hmeans with
  | null => rfl
  | trueWord => rfl
  | falseWord => rfl
  | @number _ n hword hread =>
    cases n with
    | int n => rw [integer_agrees hread, Located.ofDatum]
    | float x => exact h chars (Json.mem_words hspaced (legal_of_spells hspells) hmem) x hread

/-- In a text of short numerals the floating point numbers agree. -/
theorem floatsAgree_of_short {text : List Char} (h : ∀ word ∈ Json.words .code [] text, ShortNumeral word) :
    FloatsAgree text := by
  intro word hword x hread
  obtain ⟨hmeans, hfinite⟩ := (h word hword).float_agrees hread
  rw [hmeans, Located.ofDatum, if_pos hfinite]

/-- Where the YAML reader accepts the text, it gives the value of the JSON text; where it does not, the JSON reader is
asked. -/
theorem readLocated_json [YamlWording] {content : String} {value : Json} (hread : Json.read content = .ok value)
    (hcalm : Calm content.toList) (hfloats : FloatsAgree content.toList) :
    ∃ spans, readLocated .json content = .ok ⟨value, spans⟩ := by
  obtain ⟨lexemes, hspells, hspaced⟩ := Json.spelled_of_read hread
  unfold readLocated
  cases hyaml : Located.ofText? content with
  | some located =>
    have hvalue := means_of_text hspells ⟨hspaced, hcalm⟩ (hfloats.wordsAgree hspaced hspells) hyaml
    exact ⟨located.spans, by rw [← hvalue]⟩
  | none =>
    simp only [hread]
    exact ⟨[], rfl⟩

theorem Config.ofText_of_readLocated [YamlWording] {format : Format} {content : String} {located : Located}
    (h : readLocated format content = .ok located) : Config.ofText format content = located.toConfig := by
  rw [Config.ofText, h]
  rfl

/-- A JSON file is read as the value of its JSON text, whether the YAML reader accepts it or not: where no break
in a string is folded and the floating point numbers agree. -/
theorem json_text_read_faithfully [YamlWording] {content : String} {value : Json}
    (hread : Json.read content = .ok value) (hcalm : Calm content.toList) (hfloats : FloatsAgree content.toList) :
    ∃ spans, readLocated .json content = .ok ⟨value, spans⟩ ∧
      Config.ofText .json content = Located.toConfig ⟨value, spans⟩ := by
  obtain ⟨spans, hlocated⟩ := readLocated_json hread hcalm hfloats
  exact ⟨spans, hlocated, Config.ofText_of_readLocated hlocated⟩

/-- A text with an integer, a fraction, a keyword and a minus sign inside a string. -/
def mixedText : String := "\x7b\"label\": \"a -0 b\", \"range\": [-1, 2.5, null]\x7d"

theorem mixedText_read_faithfully : ∃ value, Json.read mixedText = .ok value ∧ Calm mixedText.toList ∧
    FloatsAgree mixedText.toList ∧ ∀ [YamlWording], ∃ spans, readLocated .json mixedText = .ok ⟨value, spans⟩ ∧
      Config.ofText .json mixedText = Located.toConfig ⟨value, spans⟩ := by
  have hread : ∃ value, Json.read mixedText = .ok value := by
    have hok : (Json.read mixedText).isOk = true := by decide +kernel
    cases hread : Json.read mixedText with
    | ok value => exact ⟨value, rfl⟩
    | error cause =>
      rw [hread] at hok
      cases hok
  have hcalm : Calm mixedText.toList := by decide +kernel
  have hfloats : FloatsAgree mixedText.toList := floatsAgree_of_short (by decide +kernel)
  obtain ⟨value, hread⟩ := hread
  exact ⟨value, hread, hcalm, hfloats, json_text_read_faithfully hread hcalm hfloats⟩

/-- A JSON file without folded breaks needs no look at its floating point numbers where all its numerals are short. -/
theorem short_json_text_read_faithfully [YamlWording] {content : String} {value : Json}
    (hread : Json.read content = .ok value) (hcalm : Calm content.toList)
    (hshort : ∀ word ∈ Json.words .code [] content.toList, ShortNumeral word) :
    ∃ spans, readLocated .json content = .ok ⟨value, spans⟩ ∧
      Config.ofText .json content = Located.toConfig ⟨value, spans⟩ := by
  obtain ⟨spans, hlocated⟩ := readLocated_json hread hcalm (floatsAgree_of_short hshort)
  exact ⟨spans, hlocated, Config.ofText_of_readLocated hlocated⟩

/-- A JSON reader takes `-0` for a floating point number, the YAML reader for the integer zero. -/
theorem minus_zero_read_as_integer :
    Json.read "[-0]" = .ok (.arr [.num (.float (.zero true))]) ∧
      ∀ [YamlWording], ∃ spans, readLocated .json "[-0]" = .ok ⟨.arr [.num (.int 0)], spans⟩ := by
  have htokens : Token.ofText "[-0]" =
      [⟨.flowSequence, 0, 1⟩, ⟨.scalar .plain "-0", 1, 3⟩, ⟨.flowSequenceEnd, 3, 4⟩, ⟨.streamEnd, 4, 4⟩] := by
    decide +kernel
  have hvalue : Value.ofText? "[-0]" = some (.sequence [.scalar (.int 0) ⟨1, 3⟩] ⟨0, 4⟩) := by
    rw [Value.ofText?, Document.ofText?, htokens]
    rfl
  have hlocated : Located.ofText? "[-0]" = some (.ofValue (.sequence [.scalar (.int 0) ⟨1, 3⟩] ⟨0, 4⟩)) :=
    Option.map_eq_some_iff.2 ⟨_, hvalue, rfl⟩
  refine ⟨by cbv, ?_⟩
  intro
  unfold readLocated
  simp only [hlocated]
  exact ⟨_, rfl⟩

end AddonConfig
