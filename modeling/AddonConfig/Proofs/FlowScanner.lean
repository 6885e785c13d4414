import AddonConfig.Proofs.FlowTokens
import AddonConfig.Yaml.Scanner
import Mathlib.Data.List.Forall2

/-!
# Scanning JSON text

`Live` holds wherever the scanner stands in a JSON text: the tokens so far are those of the lexemes so far, and
a key start that is kept at a colon is that of the string before it. Each token keeps it (`Live.readToken?`), so
the tokens of the text are those of its lexemes, cut at a fault if there is one (`follows_of_text`).
-/

namespace AddonConfig.Yaml
open Json (Bracket Lexeme Spelled IsWord)

namespace Scanner

/-- The kinds of the tokens that wait. -/
def kinds (s : Scanner) : List TokenKind := s.waiting.map Token.kind

/-! ### Key starts -/

theorem forall₂_of_mapM {α β : Type} {f : α → Option β} {items : List α} {images : List β}
    (h : items.mapM f = some images) : List.Forall₂ (fun item image => f item = some image) items images := by
  induction items generalizing images with
  | nil =>
    cases h
    exact .nil
  | cons item items ih =>
    rw [List.mapM_cons] at h
    obtain ⟨image, himage, hrest⟩ := Option.bind_eq_some_iff.1 h
    obtain ⟨others, hothers, hall⟩ := Option.bind_eq_some_iff.1 hrest
    cases hall
    exact .cons himage (ih hothers)

/-- Outside of block collections no key start has to be one, and none lies before the tokens that wait. -/
structure Sound (s : Scanner) : Prop where
  indent : s.indent = -1
  outer : s.outer = []
  opened : s.keys ≠ []
  keys : ∀ key, some key ∈ s.keys → key.required = false ∧ s.handed ≤ key.number

/-- The same key starts, some of them given up. -/
def Fewer (keys fewer : List (Option KeyStart)) : Prop := List.Forall₂ (fun old new => new = old ∨ new = none) keys fewer

theorem Fewer.mem {keys fewer : List (Option KeyStart)} (h : Fewer keys fewer) {key : KeyStart}
    (hmem : some key ∈ fewer) : some key ∈ keys := by
  induction h with
  | nil => exact hmem
  | cons hhead _ ih =>
    rcases List.mem_cons.1 hmem with rfl | hmem
    · rcases hhead with rfl | h
      · exact List.mem_cons_self
      · cases h
    · exact List.mem_cons_of_mem _ (ih hmem)

theorem Fewer.head {keys fewer : List (Option KeyStart)} (h : Fewer keys fewer) {key : KeyStart}
    (hhead : fewer.head? = some (some key)) : keys.head? = some (some key) := by
  cases h with
  | nil => cases hhead
  | cons hfirst _ =>
    cases hhead
    rcases hfirst with rfl | h
    · rfl
    · cases h

namespace Sound
variable {s s' : Scanner}

theorem dropKey? (h : s.Sound) : s.dropKey? = some { s with keys := none :: s.keys.tail } := by
  obtain ⟨cursor, indent, outer, keys, mayStartKey, waiting, handed⟩ := s
  match keys, h.opened, h.keys with
  | none :: keys, _, _ => rfl
  | some key :: keys, _, hkeys => simp [Scanner.dropKey?, (hkeys key List.mem_cons_self).1]

/-- Where a key may start, the next token is where it starts. -/
theorem saveKey? (h : s.Sound) : ∃ head, s.saveKey? = some { s with keys := head :: s.keys.tail } ∧
    (∀ key, head = some key → key.required = false ∧ s.handed ≤ key.number) ∧
    (s.mayStartKey = true → ∃ key, head = some key ∧ key.number = s.nextNumber) := by
  by_cases hstart : s.mayStartKey = true
  · have hrequired : (!s.inFlow && decide (s.indent = (s.cursor.column : Int))) = false := by
      have : ¬(-1 : Int) = s.cursor.column := by omega
      simp [h.indent, this]
    refine ⟨some ⟨s.nextNumber, !s.inFlow && s.indent = s.cursor.column, s.cursor⟩, ?_, ?_, fun _ => ⟨_, rfl, rfl⟩⟩
    · simp only [Scanner.saveKey?, hstart, if_true, h.dropKey?]
      rfl
    · rintro key ⟨⟩
      exact ⟨hrequired, Nat.le_add_right _ _⟩
  · refine ⟨s.keys.head h.opened, ?_, ?_, fun hstart' => absurd hstart' hstart⟩
    · rw [Scanner.saveKey?, if_neg hstart, List.cons_head_tail]
    · intro key hkey
      exact h.keys key (hkey ▸ List.head_mem h.opened)

theorem closeBlocks (h : s.Sound) (column : Int) : s.closeBlocks column = s := by
  rw [Scanner.closeBlocks, h.outer]
  simp [closeFrom]

end Sound

theorem dropStale?_eq_some {s s' : Scanner} (h : s.dropStale? = some s') :
    ∃ fewer, Fewer s.keys fewer ∧ s' = { s with keys := fewer } := by
  obtain ⟨fewer, hfewer, hs'⟩ := Option.bind_eq_some_iff.1 h
  cases hs'
  refine ⟨fewer, (forall₂_of_mapM hfewer).imp fun old new hnew => ?_, rfl⟩
  cases old with
  | none =>
    cases hnew
    exact .inl rfl
  | some key =>
    dsimp only at hnew
    split_ifs at hnew
    · cases hnew
      exact .inl rfl
    · cases hnew
      exact .inr rfl

/-! ### Between lexemes -/

/-- The string before is the token that waits last, and a key start that is kept is its own. -/
def AfterName (s : Scanner) (handed : List TokenKind) (done : List Lexeme) : Prop :=
  ∃ before name kinds, done = before ++ [.quoted name] ∧ handed ++ s.kinds = kinds ++ [.scalar .quoted name] ∧
    Marked before kinds ∧ ∀ key, s.keys.head? = some (some key) → key.number + 1 = s.nextNumber

/-- The scanner of a JSON text after some of its lexemes and before the others; `handed` are the tokens that
were handed out. -/
structure Live (s : Scanner) (handed : List TokenKind) (done rest : List Lexeme) (turn : Turn) : Prop
    extends Sound s where
  count : handed.length = s.handed
  ahead : Ahead rest s.cursor.rest
  legal : Legal s.keys.length turn rest
  fresh : turn = .fresh → s.mayStartKey = true
  marked : Marked done (handed ++ s.kinds)
  named : turn = .named → s.AfterName handed done

namespace Live
variable {s s' : Scanner} {handed : List TokenKind} {done rest : List Lexeme} {turn : Turn}

theorem thin (h : s.Live handed done rest turn) {fewer : List (Option KeyStart)} (hfewer : Fewer s.keys fewer) :
    ({ s with keys := fewer } : Scanner).Live handed done rest turn where
  indent := h.indent
  outer := h.outer
  opened := by
    rintro rfl
    exact h.opened (List.length_eq_zero_iff.1 hfewer.length_eq)
  keys key hkey := h.keys key (hfewer.mem hkey)
  count := h.count
  ahead := h.ahead
  legal := hfewer.length_eq ▸ h.legal
  fresh := h.fresh
  marked := h.marked
  named hturn := by
    obtain ⟨before, name, kinds, hdone, hkinds, hmarked, hkey⟩ := h.named hturn
    exact ⟨before, name, kinds, hdone, hkinds, hmarked, fun key hhead => hkey key (hfewer.head hhead)⟩

theorem move (h : s.Live handed done rest turn) {c : Cursor} (hahead : Ahead rest c.rest) {mayStartKey : Bool}
    (hstart : s.mayStartKey = true → mayStartKey = true) :
    ({ s with cursor := c, mayStartKey } : Scanner).Live handed done rest turn where
  indent := h.indent
  outer := h.outer
  opened := h.opened
  keys := h.keys
  count := h.count
  ahead := hahead
  legal := h.legal
  fresh hturn := hstart (h.fresh hturn)
  marked := h.marked
  named := h.named

/-- The gap before a lexeme is passed over. -/
theorem skipGap {fuel : Nat} (h : s.Live handed done rest turn) : (s.skipGap fuel).Live handed done rest turn := by
  induction fuel generalizing s with
  | zero => exact h
  | succ fuel ih =>
    obtain ⟨hmark, -⟩ := h.ahead.no_mark
    rw [Scanner.skipGap]
    simp only [hmark, and_false, if_false]
    generalize hp : (fun x : Char => decide (x = ' ') || (s.inFlow || !s.mayStartKey) && decide (x = '\t')) = p
    have hrest : Ahead rest (s.cursor.dropWhile p).rest := by
      rw [Cursor.dropWhile_rest]
      refine h.ahead.dropWhile fun x hx => ?_
      subst hp
      simp only [Bool.or_eq_true, Bool.and_eq_true, decide_eq_true_eq] at hx
      rcases hx with rfl | ⟨-, rfl⟩ <;> rfl
    have hcomment : (s.cursor.dropWhile p).skipComment = s.cursor.dropWhile p := if_neg hrest.no_mark.2
    rw [hcomment]
    split_ifs with hline
    · obtain ⟨hends, hnonempty⟩ := hline
      cases htext : (s.cursor.dropWhile p).rest with
      | nil => simp [htext] at hnonempty
      | cons x text =>
        have hbreak : isBreak x = true := by simpa [htext, endsLine] using hends
        exact ih (h.move (hrest.stepLine htext hbreak) fun hstart => by simp [hstart])
    · exact h.move hrest id

/-- One lexeme more, with the key starts that are kept then. -/
theorem advance {lexeme : Lexeme} {next : Turn} (h : s.Live handed done (lexeme :: rest) turn)
    {keys : List (Option KeyStart)} {mayStartKey : Bool} {stop : Cursor} {token : Token}
    (hkeys : ∀ key, some key ∈ keys → key.required = false ∧ s.handed ≤ key.number) (hopened : keys ≠ [])
    (hahead : Ahead rest stop.rest) (hlegal : Legal keys.length next rest)
    (hfresh : next = .fresh → mayStartKey = true) (htoken : token.kind = tokenOf lexeme)
    (hnamed : next = .named → turn = .fresh ∧ ∃ name, lexeme = .quoted name ∧
      ∀ key, keys.head? = some (some key) → key.number = s.nextNumber) :
    ({ s with cursor := stop, keys, mayStartKey, waiting := s.waiting ++ [token] } : Scanner).Live
      handed (done ++ [lexeme]) rest next := by
  have hkinds : handed ++ (s.waiting ++ [token]).map Token.kind = handed ++ s.kinds ++ [tokenOf lexeme] := by
    simp [Scanner.kinds, htoken]
  refine ⟨⟨h.indent, h.outer, hopened, hkeys⟩, h.count, hahead, hlegal, hfresh, ?_, fun hturn => ?_⟩
  · show Marked _ (handed ++ (s.waiting ++ [token]).map Token.kind)
    rw [hkinds]
    exact h.marked.snoc lexeme
  · obtain ⟨-, name, rfl, hkey⟩ := hnamed hturn
    refine ⟨done, name, handed ++ s.kinds, rfl, hkinds, h.marked, fun key hhead => ?_⟩
    rw [hkey key hhead]
    simp [nextNumber, Nat.add_assoc]

end Live

/-! ### Reading a token -/

section Dispatch
variable {s : Scanner} {x : Char} {text : List Char}

theorem readToken?_blank (htext : s.cursor.rest = x :: text) (hx : Json.isBlank x = true) : s.readToken? = none := by
  simp only [Json.isBlank, Bool.or_eq_true, decide_eq_true_eq] at hx
  rcases hx with ((rfl | rfl) | rfl) | rfl <;>
    simp [readToken?, htext, startsMarker_of_ne, startsPlain, isBlank, isBreak]

theorem readToken?_opening {bracket : Bracket} (htext : s.cursor.rest = bracket.opener :: text) :
    s.readToken? = s.readFlowStart? (tokenOf (.opening bracket)) := by
  cases bracket <;> simp [readToken?, htext, Bracket.opener, startsMarker_of_ne, tokenOf]

theorem readToken?_closing {bracket : Bracket} (htext : s.cursor.rest = bracket.closer :: text) :
    s.readToken? = s.readFlowEnd? (tokenOf (.closing bracket)) := by
  cases bracket <;> simp [readToken?, htext, Bracket.closer, startsMarker_of_ne, tokenOf]

theorem readToken?_comma (htext : s.cursor.rest = ',' :: text) : s.readToken? = s.readFlowEntry? := by
  simp [readToken?, htext, startsMarker_of_ne]

theorem readToken?_colon (htext : s.cursor.rest = ':' :: text) (hflow : s.inFlow = true) :
    s.readToken? = s.readValue? := by
  simp [readToken?, htext, startsMarker_of_ne, hflow]

theorem readToken?_quoted (htext : s.cursor.rest = '"' :: text) : s.readToken? = s.readQuotedScalar? '"' := by
  simp [readToken?, htext, startsMarker_of_ne]

theorem readToken?_word {word : List Char} {s' : Scanner} (hword : IsWord word) (htext : s.cursor.rest = word ++ text)
    (h : s.readToken? = some s') : s.readPlainScalar? = some s' := by
  obtain ⟨hhyphens, hdots, -⟩ := word_no_marker hword text
  obtain ⟨x, more, rfl, hx | ⟨rfl, d, digits, rfl, hd⟩⟩ := hword.head
  · have hne : ∀ y : Char, y.isAlphanum = false → x ≠ y := by
      rintro y hy rfl
      exact absurd hx (by simp [hy])
    simp only [List.cons_append] at htext hhyphens hdots
    have hread : startsPlain s.inFlow (x :: (more ++ text)) = true ∧ s.readPlainScalar? = some s' := by
      simpa [readToken?, htext, hhyphens, hdots, hne '%' rfl, hne '[' rfl, hne '\x7b' rfl, hne ']' rfl,
        hne '\x7d' rfl, hne ',' rfl, hne '-' rfl, hne '?' rfl, hne ':' rfl, hne '*' rfl, hne '&' rfl, hne '!' rfl,
        hne '|' rfl, hne '>' rfl, hne '\'' rfl, hne '"' rfl] using h
    exact hread.2
  · have hgap : startsGap (d :: (digits ++ text)) = false := by
      obtain ⟨hblank, hbreak, -, -⟩ := wordSign_continues (hword.signs d (by simp))
      simp [startsGap, hblank, hbreak]
    simp only [List.cons_append] at htext hhyphens hdots
    have hread : startsPlain s.inFlow ('-' :: d :: (digits ++ text)) = true ∧ s.readPlainScalar? = some s' := by
      simpa [readToken?, htext, hhyphens, hdots, hgap] using h
    exact hread.2

end Dispatch

/-- The token of a key goes in front of the string before the colon. -/
theorem AfterName.mark {s : Scanner} {handed : List TokenKind} {done : List Lexeme} {key : KeyStart}
    {outer : List (Option KeyStart)} (h : s.AfterName handed done) (hkeys : s.keys = some key :: outer)
    (hnumber : s.handed ≤ key.number) (value : Token) (hvalue : value.kind = .value) :
    Marked (done ++ [.colon])
      (handed ++ ((s.emitBefore key.number (.empty .key key.place)).waiting ++ [value]).map Token.kind) := by
  obtain ⟨before, name, kinds, rfl, hkinds, hmarked, hlast⟩ := h
  have hnext := hlast key (by rw [hkeys]; rfl)
  rcases List.eq_nil_or_concat s.waiting with hwaiting | ⟨init, last, hwaiting⟩
  · simp only [nextNumber, hwaiting, List.length_nil] at hnext
    omega
  · rw [List.concat_eq_append] at hwaiting
    have hplace : key.number - s.handed = init.length := by
      simp only [nextNumber, hwaiting, List.length_append, List.length_singleton] at hnext
      omega
    have hends : handed ++ init.map Token.kind = kinds ∧ last.kind = .scalar .quoted name := by
      simpa [Scanner.kinds, hwaiting, ← List.append_assoc] using hkinds
    obtain ⟨rfl, hname⟩ := hends
    simpa [emitBefore, hplace, hwaiting, hname, hvalue, Token.empty] using hmarked.append (.key name .nil)

theorem openBlock_of_inFlow {s : Scanner} (h : s.inFlow = true) (kind : TokenKind) (before : Option Nat)
    (place : Cursor) : s.openBlock kind before place = s := if_pos (.inl h)

namespace Live
variable {s s' : Scanner} {handed : List TokenKind} {done rest : List Lexeme} {turn : Turn} {bracket : Bracket}
  {text word raw chars : List Char}

/-- The key starts around the innermost one. -/
theorem outerKeys (h : s.Live handed done rest turn) (head : Option KeyStart)
    (hhead : ∀ key, head = some key → key.required = false ∧ s.handed ≤ key.number) :
    (∀ key, some key ∈ head :: s.keys.tail → key.required = false ∧ s.handed ≤ key.number) ∧
      (head :: s.keys.tail).length = s.keys.length := by
  constructor
  · intro key hkey
    rcases List.mem_cons.1 hkey with hkey | hkey
    · exact hhead key hkey.symm
    · exact h.keys key (List.mem_of_mem_tail hkey)
  · have := List.length_pos_iff.2 h.opened
    simp only [List.length_cons, List.length_tail]
    omega

theorem opening (h : s.Live handed done (.opening bracket :: rest) turn)
    (htext : s.cursor.rest = bracket.opener :: text) (hrest : Ahead rest text)
    (hread : s.readFlowStart? (tokenOf (.opening bracket)) = some s') :
    s'.Live handed (done ++ [.opening bracket]) rest .fresh := by
  obtain ⟨head, hsave, hhead, -⟩ := h.toSound.saveKey?
  obtain ⟨houter, hlength⟩ := h.outerKeys head hhead
  have hkeys : ∀ key, some key ∈ none :: head :: s.keys.tail → key.required = false ∧ s.handed ≤ key.number := by
    intro key hkey
    rcases List.mem_cons.1 hkey with h | hkey
    · cases h
    · exact houter key hkey
  have hlegal : Legal (none :: head :: s.keys.tail).length .fresh rest := by
    rw [List.length_cons, hlength]
    exact h.legal.of_opening
  simp only [readFlowStart?, hsave] at hread
  cases hread
  exact h.advance hkeys (List.cons_ne_nil _ _) (by rwa [Cursor.step_rest htext]) hlegal (fun _ => rfl) rfl nofun

theorem closing (h : s.Live handed done (.closing bracket :: rest) turn)
    (htext : s.cursor.rest = bracket.closer :: text) (hrest : Ahead rest text)
    (hread : s.readFlowEnd? (tokenOf (.closing bracket)) = some s') :
    s'.Live handed (done ++ [.closing bracket]) rest .other := by
  obtain ⟨hlevels, hlegal⟩ := h.legal.of_closing
  obtain ⟨-, hlength⟩ := h.outerKeys none nofun
  have hkeys : ∀ key, some key ∈ s.keys.tail → key.required = false ∧ s.handed ≤ key.number :=
    fun key hkey => h.keys key (List.mem_of_mem_tail hkey)
  have hopened : s.keys.tail ≠ [] := by
    intro htail
    simp only [htail, List.length_singleton] at hlength
    omega
  have hflow : decide (1 < (none :: s.keys.tail).length) = true := by simpa [hlength] using hlevels
  rw [← List.length_tail] at hlegal
  simp only [readFlowEnd?, h.toSound.dropKey?, inFlow, hflow, Option.bind_eq_bind, Option.bind_some, if_true] at hread
  cases hread
  exact h.advance hkeys hopened (by rwa [Cursor.step_rest htext]) hlegal nofun rfl nofun

theorem comma (h : s.Live handed done (.comma :: rest) turn) (htext : s.cursor.rest = ',' :: text)
    (hrest : Ahead rest text) (hread : s.readFlowEntry? = some s') :
    s'.Live handed (done ++ [.comma]) rest .fresh := by
  obtain ⟨hkeys, hlength⟩ := h.outerKeys none nofun
  have hlegal : Legal (none :: s.keys.tail).length .fresh rest := by
    rw [hlength]
    exact h.legal.of_comma.2
  simp only [ readFlowEntry?, h.toSound.dropKey?] at hread
  cases hread
  exact h.advance hkeys (List.cons_ne_nil _ _) (by rwa [Cursor.step_rest htext]) hlegal (fun _ => rfl) rfl nofun

theorem plain (h : s.Live handed done (.word word :: rest) turn) (hword : IsWord word)
    (htext : s.cursor.rest = word ++ text) (hrest : Ahead rest text) (hread : s.readPlainScalar? = some s') :
    s'.Live handed (done ++ [.word word]) rest .other := by
  obtain ⟨head, hsave, hhead, -⟩ := h.toSound.saveKey?
  obtain ⟨hkeys, hlength⟩ := h.outerKeys head hhead
  obtain ⟨hends, hlegal⟩ := h.legal.of_word
  rw [← hlength] at hends hlegal
  simp only [readPlainScalar?, hsave, Option.bind_eq_bind, Option.bind_some] at hread
  obtain ⟨scalar, hscalar, hs'⟩ := Option.bind_eq_some_iff.1 hread
  obtain ⟨hchars, hafter⟩ := readPlain?_word hword htext hrest hends hscalar
  cases hs'
  exact h.advance hkeys (List.cons_ne_nil _ _) hafter hlegal nofun (by rw [← hchars]; rfl) nofun

theorem quoted (h : s.Live handed done (.quoted (String.ofList chars) :: rest) turn) (hraw : Json.Raw raw chars)
    (hcalm : Calm raw) (htext : s.cursor.rest = '"' :: raw ++ '"' :: text) (hrest : Ahead rest text)
    (hread : s.readQuotedScalar? '"' = some s') :
    s'.Live handed (done ++ [.quoted (String.ofList chars)]) rest turn.afterString := by
  obtain ⟨head, hsave, hhead, hstart⟩ := h.toSound.saveKey?
  obtain ⟨hkeys, hlength⟩ := h.outerKeys head hhead
  have hlegal := h.legal.of_quoted
  rw [← hlength] at hlegal
  simp only [readQuotedScalar?, hsave, Option.bind_eq_bind, Option.bind_some] at hread
  obtain ⟨⟨found, stop⟩, hquoted, hs'⟩ := Option.bind_eq_some_iff.1 hread
  obtain ⟨rfl, hstop⟩ := readQuoted?_raw hraw hcalm (Cursor.step_rest htext) hquoted
  cases hs'
  refine h.advance hkeys (List.cons_ne_nil _ _) (by rwa [hstop]) hlegal ?_ rfl ?_
  · cases turn <;> nofun
  · intro hturn
    obtain rfl : turn = .fresh := by
      cases turn with
      | fresh => rfl
      | named => cases hturn
      | other => cases hturn
    obtain ⟨key, rfl, hnumber⟩ := hstart (h.fresh rfl)
    refine ⟨rfl, _, rfl, fun other hother => ?_⟩
    cases hother
    exact hnumber

theorem colon (h : s.Live handed done (.colon :: rest) turn) (htext : s.cursor.rest = ':' :: text)
    (hrest : Ahead rest text) (hread : s.readValue? = some s') :
    s'.Live handed (done ++ [.colon]) rest .other := by
  obtain ⟨hlevels, hturn, hlegal⟩ := h.legal.of_colon
  have hflow : s.inFlow = true := decide_eq_true hlevels
  have hstop : Ahead rest s.cursor.step.rest := by rwa [Cursor.step_rest htext]
  rw [readValue?] at hread
  split at hread
  case h_1 key outer hkeys =>
    have houter := (h.outerKeys none nofun).1
    rw [hkeys] at houter hlegal
    have hmark := (h.named hturn).mark hkeys (h.keys key (by simp [hkeys])).2
    have hflow' : (s.emitBefore key.number (.empty .key key.place)).inFlow = true := hflow
    simp only [openBlock_of_inFlow hflow'] at hread
    cases hread
    exact ⟨⟨h.indent, h.outer, List.cons_ne_nil _ _, houter⟩, h.count, hstop, hlegal, nofun, hmark _ rfl, nofun⟩
  case h_2 =>
    simp only [openBlock_of_inFlow hflow, hflow] at hread
    cases hread
    exact h.advance h.keys h.opened hstop hlegal nofun rfl nofun

end Live

/-! ### The whole text -/

/-- The scanner after the end of a JSON text. -/
structure Ended (s : Scanner) (handed : List TokenKind) (done : List Lexeme) : Prop where
  keys : s.keys = [none]
  kinds : ∃ kinds, s.kinds = kinds ++ [.streamEnd] ∧ Marked done (handed ++ kinds)

/-- The scanner of a JSON text with those lexemes. -/
inductive Underway (s : Scanner) (handed : List TokenKind) (lexemes : List Lexeme) : Prop
  | live {done rest : List Lexeme} {turn : Turn} (h : s.Live handed done rest turn) (hsplit : done ++ rest = lexemes)
  | ended (h : s.Ended handed lexemes)

section Whole
variable {s s' : Scanner} {handed : List TokenKind} {done rest lexemes : List Lexeme} {turn : Turn}

theorem Live.readEnd? (h : s.Live handed done [] turn) (hread : s.readEnd? = some s') : s'.Ended handed done := by
  unfold Scanner.readEnd? at hread
  extract_lets c stop at hread
  have hsound : ({ s with cursor := stop } : Scanner).Sound := ⟨h.indent, h.outer, h.opened, h.keys⟩
  rw [hsound.closeBlocks, hsound.dropKey?] at hread
  cases hread
  have hlevels := h.legal.of_nil
  refine ⟨?_, s.kinds, ?_, h.marked⟩
  · show none :: s.keys.tail = [none]
    rw [List.length_eq_zero_iff.1 (by rw [List.length_tail, hlevels] : s.keys.tail.length = 0)]
  · show (s.waiting ++ [_]).map Token.kind = _
    rw [List.map_append]
    rfl

/-- Each token is that of the next lexeme. -/
theorem Live.readToken? (h : s.Live handed done rest turn) (hread : s.readToken? = some s') :
    s'.Underway handed (done ++ rest) := by
  have hcalm := h.ahead.calm
  generalize htext : s.cursor.rest = text at hcalm
  have hspaced := htext ▸ h.ahead.spaced
  cases hspaced with
  | nil =>
    rw [List.append_nil]
    simp only [Scanner.readToken?, htext] at hread
    exact .ended (h.readEnd? hread)
  | blank hblank =>
    rw [readToken?_blank htext hblank] at hread
    cases hread
  | @lexeme lexeme chars rest text hlexeme hspaced =>
    have hrest : Ahead rest text := ⟨hspaced, hcalm.of_append_right⟩
    have hnext : ∃ next, s'.Live handed (done ++ [lexeme]) rest next := by
      cases hlexeme with
      | opening bracket =>
        rw [readToken?_opening htext] at hread
        exact ⟨_, h.opening htext hrest hread⟩
      | closing bracket =>
        rw [readToken?_closing htext] at hread
        exact ⟨_, h.closing htext hrest hread⟩
      | comma =>
        rw [readToken?_comma htext] at hread
        exact ⟨_, h.comma htext hrest hread⟩
      | colon =>
        rw [readToken?_colon htext (decide_eq_true h.legal.of_colon.1)] at hread
        exact ⟨_, h.colon htext hrest hread⟩
      | word hword => exact ⟨_, h.plain hword htext hrest (readToken?_word hword htext hread)⟩
      | @quoted raw chars hraw =>
        have htext' : s.cursor.rest = '"' :: raw ++ '"' :: text := by simpa using htext
        rw [readToken?_quoted htext'] at hread
        exact ⟨_, h.quoted hraw hcalm.of_append_left.of_append_left.tail htext' hrest hread⟩
    obtain ⟨next, hlive⟩ := hnext
    exact .live hlive (by simp)

/-- One token more, after the gap before it. -/
theorem Live.read? (h : s.Live handed done rest turn) (hread : s.read? = some s') :
    s'.Underway handed (done ++ rest) := by
  obtain ⟨fresh, hdrop, htoken⟩ := Option.bind_eq_some_iff.1 hread
  obtain ⟨fewer, hfewer, rfl⟩ := dropStale?_eq_some hdrop
  have hlive := h.skipGap.thin hfewer
  rw [hlive.toSound.closeBlocks] at htoken
  exact hlive.readToken? htoken

theorem Ended.needsMore (h : s.Ended handed lexemes) : s.needsMore = false := by
  obtain ⟨kinds, hkinds, -⟩ := h.kinds
  have hwaiting : s.waiting ≠ [] := by
    intro hempty
    rw [Scanner.kinds, hempty] at hkinds
    exact List.append_ne_nil_of_right_ne_nil kinds (List.cons_ne_nil _ _) hkinds.symm
  simp [Scanner.needsMore, h.keys, hwaiting]

theorem Underway.thin (h : s.Underway handed lexemes) {fewer : List (Option KeyStart)} (hfewer : Fewer s.keys fewer) :
    ({ s with keys := fewer } : Scanner).Underway handed lexemes := by
  cases h with
  | live h hsplit => exact .live (h.thin hfewer) hsplit
  | ended h =>
    refine .ended ⟨?_, h.kinds⟩
    rw [h.keys] at hfewer
    cases hfewer with
    | cons hhead htail =>
      cases htail
      rcases hhead with rfl | rfl <;> rfl

/-- Reading on until the next token is known. -/
theorem Underway.settle? {fuel : Nat} (h : s.Underway handed lexemes) (hsettle : s.settle? fuel = some s') :
    s'.Underway handed lexemes ∧ s'.needsMore = false := by
  induction fuel generalizing s with
  | zero => cases hsettle
  | succ fuel ih =>
    have hfresh : ∃ fresh : Scanner, fresh.Underway handed lexemes ∧
        (if fresh.needsMore then do Scanner.settle? fuel (← fresh.read?) else some fresh) = some s' := by
      rw [Scanner.settle?] at hsettle
      split_ifs at hsettle
      · exact ⟨s, h, hsettle⟩
      · obtain ⟨fresh, hdrop, hrest⟩ := Option.bind_eq_some_iff.1 hsettle
        obtain ⟨fewer, hfewer, rfl⟩ := dropStale?_eq_some hdrop
        exact ⟨_, h.thin hfewer, hrest⟩
    obtain ⟨fresh, hunderway, hrest⟩ := hfresh
    split_ifs at hrest with hmore
    · obtain ⟨next, hnext, hrest⟩ := Option.bind_eq_some_iff.1 hrest
      cases hunderway with
      | live hlive hsplit => exact ih (hsplit ▸ hlive.read? hnext) hrest
      | ended hended => exact absurd hmore (by simp [hended.needsMore])
    · cases hrest
      exact ⟨hunderway, by simpa using hmore⟩

/-- The lexemes are read on after one token more was handed out. -/
theorem Underway.handOut {token : Token} {waiting : List Token} (h : s.Underway handed lexemes)
    (hmore : s.needsMore = false) (hwaiting : s.waiting = token :: waiting) (hend : token.kind ≠ .streamEnd) :
    ({ s with waiting, handed := s.handed + 1 } : Scanner).Underway (handed ++ [token.kind]) lexemes := by
  have hkinds : s.kinds = token.kind :: waiting.map Token.kind := by rw [Scanner.kinds, hwaiting, List.map_cons]
  have hsame : handed ++ [token.kind] ++ waiting.map Token.kind = handed ++ s.kinds := by
    rw [hkinds, List.append_assoc, List.singleton_append]
  cases h with
  | @live done rest turn h hsplit =>
    have hlater : ∀ key, some key ∈ s.keys → key.number ≠ s.handed := by
      simp only [Scanner.needsMore, Bool.or_eq_false_iff, List.any_eq_false] at hmore
      intro key hkey
      simpa using hmore.2 _ hkey
    refine .live ⟨⟨h.indent, h.outer, h.opened, fun key hkey => ?_⟩, ?_, h.ahead, h.legal, h.fresh, ?_, fun hturn => ?_⟩ hsplit
    · have := (h.keys key hkey).2
      have := hlater key hkey
      exact ⟨(h.keys key hkey).1, by show s.handed + 1 ≤ _; omega⟩
    · rw [List.length_append, h.count]
      rfl
    · exact hsame.symm ▸ h.marked
    · obtain ⟨before, name, kinds, hdone, hends, hmarked, hkey⟩ := h.named hturn
      refine ⟨before, name, kinds, hdone, hsame.trans hends, hmarked, fun key hhead => ?_⟩
      rw [hkey key hhead, nextNumber, hwaiting, List.length_cons]
      show _ = s.handed + 1 + waiting.length
      omega
  | ended h =>
    obtain ⟨kinds, hends, hmarked⟩ := h.kinds
    refine .ended ⟨h.keys, ?_⟩
    rw [hkinds] at hends
    cases kinds with
    | nil => exact absurd (List.cons.inj hends).1 hend
    | cons kind kinds =>
      obtain ⟨rfl, hrest⟩ := List.cons.inj hends
      exact ⟨kinds, hrest, by simpa using hmarked⟩

/-- Whatever is still to be read, a fault may cut it here. -/
theorem Underway.cut (h : s.Underway handed lexemes) :
    ∃ kinds more, Marked lexemes kinds ∧ kinds ++ [.streamEnd] = handed ++ more ∧ Follows [.fault] more := by
  cases h with
  | @live done rest turn h hsplit =>
    refine ⟨_, s.kinds ++ rest.map tokenOf ++ [.streamEnd], hsplit ▸ h.marked.append (.plain rest), ?_, .fault _⟩
    simp
  | ended h =>
    obtain ⟨kinds, -, hmarked⟩ := h.kinds
    exact ⟨_, kinds ++ [.streamEnd], hmarked, by simp, .fault _⟩

/-- Where the end is handed out all lexemes are. -/
theorem Underway.complete {token : Token} {waiting : List Token} (h : s.Underway handed lexemes)
    (hwaiting : s.waiting = token :: waiting) (hend : token.kind = .streamEnd) : Marked lexemes handed := by
  have hkinds : s.kinds = .streamEnd :: waiting.map Token.kind := by
    rw [Scanner.kinds, hwaiting, List.map_cons, hend]
  cases h with
  | live h hsplit =>
    have hnone := h.marked.no_end
    simp [hkinds] at hnone
  | ended h =>
    obtain ⟨kinds, hends, hmarked⟩ := h.kinds
    rw [hkinds] at hends
    cases kinds with
    | nil => simpa using hmarked
    | cons kind kinds =>
      obtain ⟨rfl, -⟩ := List.cons.inj hends
      have hnone := hmarked.no_end
      simp at hnone

/-- The tokens handed out from here on are those of the lexemes, cut at a fault if there is one. -/
theorem Underway.tokens {fuel : Nat} (h : s.Underway handed lexemes) :
    ∃ kinds more, Marked lexemes kinds ∧ kinds ++ [.streamEnd] = handed ++ more ∧
      Follows ((s.tokens fuel).map Token.kind) more := by
  induction fuel generalizing s handed with
  | zero => exact h.cut
  | succ fuel ih =>
    rw [Scanner.tokens]
    split
    case h_1 => exact h.cut
    case h_2 next hnext =>
      obtain ⟨hunderway, hmore⟩ := h.settle? hnext
      split
      case h_1 => exact h.cut
      case h_2 token waiting hwaiting =>
        split_ifs with hend
        · refine ⟨handed, [.streamEnd], hunderway.complete hwaiting hend, rfl, ?_⟩
          rw [List.map_singleton, hend]
          exact .refl _
        · obtain ⟨kinds, more, hmarked, hsplit, hfollows⟩ := ih (hunderway.handOut hmore hwaiting hend)
          refine ⟨kinds, token.kind :: more, hmarked, by simpa using hsplit, ?_⟩
          rw [List.map_cons]
          exact .cons token.kind hfollows

end Whole

end Scanner

/-- The tokens of a JSON text are those of its lexemes, cut at a fault if there is one. -/
theorem follows_of_text {text : String} {lexemes : List Lexeme} (hahead : Ahead lexemes text.toList)
    (hlegal : Legal 1 .fresh lexemes) :
    ∃ kinds, Marked lexemes kinds ∧ Follows ((Token.ofText text).map Token.kind) (kinds ++ [.streamEnd]) := by
  unfold Token.ofText
  simp only [hahead.no_mark.1, if_false]
  split_ifs
  · have hstart : (Scanner.start (.start text.toList)).Live [] [] lexemes .fresh :=
      ⟨⟨rfl, rfl, List.cons_ne_nil _ _, by simp [Scanner.start]⟩, rfl, hahead, hlegal, fun _ => rfl, .nil, nofun⟩
    obtain ⟨kinds, more, hmarked, rfl, hfollows⟩ := (Scanner.Underway.live hstart rfl).tokens
    exact ⟨kinds, hmarked, hfollows⟩
  · exact ⟨_, .plain lexemes, .fault _⟩

-- A text that is not calm: the next-line character in its string is a break, and is folded.
example : (Token.ofText "\"a\u0085b\"").map Token.kind = [.scalar .quoted "a b", .streamEnd] := by decide +kernel

end AddonConfig.Yaml
