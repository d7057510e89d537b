import LedgerNet.Rehearsal.Shell
import Mathlib.Data.List.Basic

/-!
# What a shell makes of plain text

A script is cut into words where it has blanks, and double quotes are taken
away. That is all that happens to a text whose other characters are plain
(`IsPlain`), that is to say neither blanks nor characters with a meaning of
their own: a word of it stays one word, and its value is the text without the
quotes (`read_words`, `expand_words`). Two commands of such words with `&&`
between them are read as just these two commands (`parse_and`).

Quotes are followed letter by letter, since they may open and close inside a
word (`pieces`). A quoted stretch counts as a part of the word even if it is
empty.
-/

namespace LedgerNet.Shell

/-! ## Plain text -/

/-- **A plain character**: no blank, and none with a meaning of its own to a
shell inside a word. -/
def IsPlain (c : Char) : Prop := c ∉ " \t\n|&;<>()$\x60\\\"'*?[".toList

instance (c : Char) : Decidable (IsPlain c) := inferInstanceAs (Decidable (c ∉ _))

/-- A text of plain characters. -/
def Plain (text : String) : Prop := ∀ c ∈ text.toList, IsPlain c

-- the instance is named: another one goes through all characters there are
instance (text : String) : Decidable (Plain text) := List.decidableBAll _ _

theorem Plain.append {first second : String} (hfirst : Plain first) (hsecond : Plain second) :
    Plain (first ++ second) := by
  intro c hc
  rw [String.toList_append] at hc
  exact (List.mem_append.1 hc).elim (hfirst c) (hsecond c)

theorem Plain.no_quote {text : String} (h : Plain text) : '"' ∉ text.toList := fun hmem =>
  absurd (h _ hmem) (by decide)

/-- Whether the reader is inside quotes after a text, given whether it was
before. -/
def quotedAfter : Bool → List Char → Bool
  | quoted, [] => quoted
  | quoted, c :: cs => quotedAfter (if c = '"' then !quoted else quoted) cs

/-- **The pieces of a word** as they are read, each with whether it was quoted:
a quote that opens is an empty piece, one that closes is none. -/
def pieces : Bool → List Char → List (List Char × Bool)
  | _, [] => []
  | quoted, c :: cs =>
    if c = '"' then
      if quoted then pieces false cs else ([], true) :: pieces true cs
    else ([c], quoted) :: pieces quoted cs

/-- **What is left of a text** without its double quotes. -/
def bare (text : List Char) : List Char := text.filter (· != '"')

theorem bare_append (first second : List Char) :
    bare (first ++ second) = bare first ++ bare second :=
  List.filter_append first second

theorem bare_of_no_quote {text : List Char} (h : '"' ∉ text) : bare text = text :=
  List.filter_eq_self.2 fun _ hc => bne_iff_ne.2 fun heq => h (heq ▸ hc)

/-- The letters of the pieces are those that are no quotes. -/
theorem flatMap_pieces (quoted : Bool) (text : List Char) :
    (pieces quoted text).flatMap Prod.fst = bare text := by
  induction text generalizing quoted with
  | nil => rfl
  | cons c cs ih =>
    unfold pieces bare
    by_cases hquote : c = '"'
    · subst hquote
      cases quoted with
      | true => exact ih false
      | false => exact ih true
    · rw [if_neg hquote, List.filter_cons, if_pos (bne_iff_ne.2 hquote)]
      exact congrArg (c :: ·) (ih quoted)

/-- A text without quotes is not quoted. -/
theorem pieces_of_no_quote {text : List Char} (h : '"' ∉ text) :
    pieces false text = text.map fun c => ([c], false) := by
  induction text with
  | nil => rfl
  | cons c cs ih =>
    have hc : c ≠ '"' := fun heq => h (heq ▸ List.mem_cons_self)
    unfold pieces
    rw [if_neg hc, ih fun hmem => h (List.mem_cons_of_mem c hmem)]
    rfl

/-- **The word that a text is read as.** -/
def wordOf (text : List Char) : Word :=
  ⟨(pieces false text).map fun piece => .literal piece.1, (pieces false text).any Prod.snd⟩

/-- **A text that can stand in a word**: plain but for quotes, all of them
closed. -/
structure Balanced (text : List Char) : Prop where
  plain : ∀ c ∈ text, IsPlain c ∨ c = '"'
  closed : quotedAfter false text = false

/-- **A text that is one word**: it is not empty and no comment. -/
structure IsWord (text : List Char) : Prop extends Balanced text where
  begins : text.head?.any (· != '#') = true

instance (text : List Char) : Decidable (Balanced text) :=
  haveI : Decidable (∀ c ∈ text, IsPlain c ∨ c = '"') := List.decidableBAll _ _
  decidable_of_iff ((∀ c ∈ text, IsPlain c ∨ c = '"') ∧ quotedAfter false text = false)
    ⟨fun h => ⟨h.1, h.2⟩, fun h => ⟨h.plain, h.closed⟩⟩

instance (text : List Char) : Decidable (IsWord text) :=
  decidable_of_iff (Balanced text ∧ text.head?.any (· != '#') = true)
    ⟨fun h => ⟨h.1, h.2⟩, fun h => ⟨h.toBalanced, h.begins⟩⟩

/-! ### Putting texts together -/

theorem quotedAfter_append (quoted : Bool) (first second : List Char) :
    quotedAfter quoted (first ++ second) = quotedAfter (quotedAfter quoted first) second := by
  induction first generalizing quoted with
  | nil => rfl
  | cons c cs ih => exact ih _

theorem quotedAfter_of_no_quote (quoted : Bool) {text : List Char} (h : '"' ∉ text) :
    quotedAfter quoted text = quoted := by
  induction text with
  | nil => rfl
  | cons c cs ih =>
    have hc : c ≠ '"' := fun heq => h (heq ▸ List.mem_cons_self)
    unfold quotedAfter
    rw [if_neg hc]
    exact ih fun hmem => h (List.mem_cons_of_mem c hmem)

variable {text : List Char} {first second : List Char}

namespace Balanced

theorem append (hfirst : Balanced first) (hsecond : Balanced second) :
    Balanced (first ++ second) where
  plain c hc := (List.mem_append.1 hc).elim (hfirst.plain c) (hsecond.plain c)
  closed := by rw [quotedAfter_append, hfirst.closed, hsecond.closed]

theorem of_plain {text : String} (h : Plain text) : Balanced text.toList where
  plain c hc := Or.inl (h c hc)
  closed := quotedAfter_of_no_quote false h.no_quote

/-- A plain text between quotes. -/
theorem of_quoted {text : String} (h : Plain text) :
    Balanced ("\"" ++ text ++ "\"").toList where
  plain c hc := by
    rw [String.toList_append, String.toList_append] at hc
    rcases List.mem_append.1 hc with hc | hc
    · rcases List.mem_append.1 hc with hc | hc
      · exact Or.inr (List.mem_singleton.1 hc)
      · exact Or.inl (h c hc)
    · exact Or.inr (List.mem_singleton.1 hc)
  closed := by
    rw [String.toList_append, String.toList_append, quotedAfter_append, quotedAfter_append,
      quotedAfter_of_no_quote _ h.no_quote]
    rfl

end Balanced

/-- A word goes on with what can stand in it. -/
theorem IsWord.append (hfirst : IsWord first) (hsecond : Balanced second) :
    IsWord (first ++ second) where
  toBalanced := hfirst.toBalanced.append hsecond
  begins := by
    cases first with
    | nil => exact absurd hfirst.begins (by decide)
    | cons c cs => exact hfirst.begins

/-! ## Reading -/

namespace Reader

/-- The reader with pieces more in its word. -/
def pushAll (r : Reader) (more : List (List Char × Bool)) : Reader :=
  more.foldl (fun r piece => r.push (.literal piece.1) piece.2) r

/-- The pieces of a word are its parts, the last one first. -/
theorem pushAll_eq {tokens : List Token} (word : Word) (more : List (List Char × Bool)) :
    pushAll ⟨tokens, some word⟩ more
      = ⟨tokens, some ⟨(more.map fun piece => Part.literal piece.1).reverse ++ word.parts,
          word.quoted || more.any Prod.snd⟩⟩ := by
  induction more generalizing word with
  | nil => simp [pushAll]
  | cons piece more ih =>
    refine (ih ⟨.literal piece.1 :: word.parts, word.quoted || piece.2⟩).trans ?_
    simp [Bool.or_assoc]

/-- A word that was just begun is closed to what was pushed. -/
theorem closed_pushAll {tokens : List Token} {more : List (List Char × Bool)} (h : more ≠ []) :
    (pushAll ⟨tokens, none⟩ more).closed
      = ⟨.word ⟨more.map fun piece => .literal piece.1, more.any Prod.snd⟩ :: tokens, none⟩ := by
  cases more with
  | nil => exact absurd rfl h
  | cons piece more =>
    have hpush : pushAll ⟨tokens, none⟩ (piece :: more)
        = pushAll ⟨tokens, some ⟨[.literal piece.1], piece.2⟩⟩ more := by
      simp [pushAll, push]
    rw [hpush, pushAll_eq]
    simp [closed]

end Reader

theorem read_plain {r : Reader} {c : Char} {rest : List Char} (h : IsPlain c)
    (hcomment : c = '#' → r.word.isSome = true) :
    read r .none (c :: rest) = read (r.push (.literal [c]) false) .none rest := by
  rw [read.eq_def]
  split <;> simp_all [IsPlain]
  intro hc hword
  simp [hword, hc] at hcomment

theorem read_plain_quoted {r : Reader} {c : Char} {rest : List Char} (h : IsPlain c) :
    read r .double (c :: rest) = read (r.push (.literal [c]) true) .double rest := by
  rw [read.eq_def]
  split <;> simp_all [IsPlain]

theorem read_openQuote (r : Reader) (rest : List Char) :
    read r .none ('"' :: rest) = read (r.push (.literal []) true) .double rest := by
  rw [read.eq_def]
  simp

theorem read_closeQuote (r : Reader) (rest : List Char) :
    read r .double ('"' :: rest) = read r .none rest := by
  rw [read.eq_def]
  simp

theorem read_blank (r : Reader) (rest : List Char) :
    read r .none (' ' :: rest) = read r.closed .none rest := by
  rw [read.eq_def]
  simp

theorem read_and (r : Reader) (rest : List Char) :
    read r .none ('&' :: '&' :: rest) = read (r.emit "&&") .none rest := by
  rw [read.eq_def]
  simp

theorem read_nil (r : Reader) : read r .none [] = .ok r.closed.tokens.reverse := by
  rw [read.eq_def]

/-- Where a reader stands that is inside quotes, or outside. -/
def Quote.ofBool : Bool → Quote
  | true => .double
  | false => .none

/-- **A text is read piece by piece**, by induction on it. Where a number sign
would begin a comment, the reader must be inside a word. -/
theorem read_append {r : Reader} (quoted : Bool) {text : List Char} (rest : List Char)
    (hplain : ∀ c ∈ text, IsPlain c ∨ c = '"')
    (hinside : r.word.isSome = true ∨ quoted = false ∧ text.head? ≠ some '#') :
    read r (Quote.ofBool quoted) (text ++ rest)
      = read (r.pushAll (pieces quoted text)) (Quote.ofBool (quotedAfter quoted text)) rest := by
  induction text generalizing r quoted with
  | nil => rfl
  | cons c cs ih =>
    have hmore : ∀ c ∈ cs, IsPlain c ∨ c = '"' := fun d hd => hplain d (List.mem_cons_of_mem c hd)
    have hpushed : ∀ part more, (r.push part more).word.isSome = true := fun _ _ => rfl
    unfold pieces quotedAfter
    by_cases hquote : c = '"'
    · subst hquote
      cases quoted with
      | true =>
        have hword : r.word.isSome = true := hinside.resolve_right fun h => nomatch h.1
        exact (read_closeQuote r _).trans (ih false hmore (Or.inl hword))
      | false =>
        exact (read_openQuote r _).trans (ih true hmore (Or.inl (hpushed _ _)))
    · have hc : IsPlain c := (hplain c List.mem_cons_self).resolve_right hquote
      rw [if_neg hquote, if_neg hquote]
      cases quoted with
      | true =>
        exact (read_plain_quoted hc).trans (ih true hmore (Or.inl (hpushed _ _)))
      | false =>
        refine (read_plain hc ?_).trans (ih false hmore (Or.inl (hpushed _ _)))
        rintro rfl
        exact hinside.resolve_right fun h => h.2 rfl

namespace IsWord

/-- A word has a piece at least. -/
theorem pieces_ne_nil (h : IsWord text) : pieces false text ≠ [] := by
  cases text with
  | nil => exact absurd h.begins (by decide)
  | cons c cs =>
    unfold pieces
    split <;> simp

/-- **A word is read as one word**, and what ends it comes after. -/
theorem read_eq (h : IsWord text) (tokens : List Token) (rest : List Char) :
    read ⟨tokens, none⟩ .none (text ++ rest)
      = read (Reader.pushAll ⟨tokens, none⟩ (pieces false text)) .none rest := by
  have hhead : text.head? ≠ some '#' := by
    intro heq
    have hbegins := h.begins
    rw [heq] at hbegins
    exact absurd hbegins (by decide)
  have hread := read_append (r := ⟨tokens, none⟩) false rest h.plain (Or.inr ⟨rfl, hhead⟩)
  rw [h.closed] at hread
  exact hread

theorem read_blank (h : IsWord text) (tokens : List Token) (rest : List Char) :
    read ⟨tokens, none⟩ .none (text ++ ' ' :: rest)
      = read ⟨.word (wordOf text) :: tokens, none⟩ .none rest := by
  rw [h.read_eq, Shell.read_blank, Reader.closed_pushAll h.pieces_ne_nil]
  rfl

theorem read_last (h : IsWord text) (tokens : List Token) :
    read ⟨tokens, none⟩ .none text = .ok (tokens.reverse ++ [.word (wordOf text)]) := by
  have hread := h.read_eq tokens []
  rw [List.append_nil] at hread
  rw [hread, read_nil, Reader.closed_pushAll h.pieces_ne_nil]
  simp [wordOf]

end IsWord

/-- Texts with a separator between them have it after all but the last. -/
theorem intercalate_concat {α : Type} (separator last : List α) (texts : List (List α)) :
    separator.intercalate (texts ++ [last]) = texts.flatMap (· ++ separator) ++ last := by
  induction texts with
  | nil => exact List.intercalate_singleton
  | cons text texts ih =>
    have hcons : separator.intercalate (text :: (texts ++ [last]))
        = text ++ separator ++ separator.intercalate (texts ++ [last]) := by
      cases texts <;> exact List.intercalate_cons_cons
    rw [List.cons_append, hcons, ih, List.flatMap_cons, List.append_assoc _ _ last]

/-- **Words with blanks after them** are read one by one. -/
theorem read_words {texts : List (List Char)} (h : ∀ text ∈ texts, IsWord text)
    (tokens : List Token) (rest : List Char) :
    read ⟨tokens, none⟩ .none (texts.flatMap (· ++ [' ']) ++ rest)
      = read ⟨(texts.map fun text => .word (wordOf text)).reverse ++ tokens, none⟩ .none rest := by
  induction texts generalizing tokens with
  | nil => rfl
  | cons text texts ih =>
    obtain ⟨htext, htexts⟩ := List.forall_mem_cons.1 h
    rw [List.flatMap_cons, List.append_assoc, List.append_assoc, List.singleton_append,
      htext.read_blank, ih htexts]
    simp

/-! ## Values -/

/-- The parts of a plain word add their letters to the field. -/
theorem foldl_expandPart {fuel : Nat} {s : State} (more : List (List Char))
    (complete : List String) (text : String) :
    (more.map Part.literal).foldl (fun (s, fields) part => expandPart (fuel + 1) s part fields)
        (s, ⟨complete, some text⟩)
      = (s, ⟨complete, some (text ++ String.ofList more.flatten)⟩) := by
  induction more generalizing text with
  | nil => simp
  | cons cs more ih =>
    refine (ih (text ++ String.ofList cs)).trans ?_
    simp [String.append_assoc]

/-- **A plain word comes to its text** without the quotes. -/
theorem expand_word {text : List Char} (h : IsWord text) (fuel : Nat) (s : State) :
    (wordOf text).parts.foldl (fun (s, fields) part => expandPart (fuel + 1) s part fields)
        (s, (⟨[], none⟩ : Fields))
      = (s, ⟨[], some (String.ofList (bare text))⟩) := by
  have hparts : (wordOf text).parts = ((pieces false text).map Prod.fst).map Part.literal := by
    simp [wordOf]
  rw [hparts, ← flatMap_pieces false text]
  cases hpieces : pieces false text with
  | nil => exact absurd hpieces h.pieces_ne_nil
  | cons piece more =>
    refine (foldl_expandPart (more.map Prod.fst) [] (String.ofList piece.1)).trans ?_
    rw [List.flatMap_cons, String.ofList_append, List.flatMap_def]

/-- Steps that leave the state as it is and add one value each. -/
theorem foldl_of_step {α β σ : Type} {step : σ × List β → α → σ × List β} {s : σ} (value : α → β)
    {xs : List α} (h : ∀ x ∈ xs, ∀ done, step (s, done) x = (s, done ++ [value x]))
    (done : List β) : xs.foldl step (s, done) = (s, done ++ xs.map value) := by
  induction xs generalizing done with
  | nil => simp
  | cons x xs ih =>
    obtain ⟨hx, hxs⟩ := List.forall_mem_cons.1 h
    rw [List.foldl_cons, hx, ih hxs]
    simp

/-- **Plain words come to one field each**, and the state is left as it
is. -/
theorem expand_words {texts : List (List Char)} (h : ∀ text ∈ texts, IsWord text) {fuel : Nat}
    (hfuel : 2 ≤ fuel) (s : State) :
    expand fuel s (texts.map wordOf)
      = (s, texts.map fun text => String.ofList (bare text)) := by
  obtain ⟨fuel, rfl⟩ := Nat.exists_eq_add_of_le' hfuel
  unfold expand
  rw [List.foldl_map]
  refine foldl_of_step _ (fun text htext done => ?_) []
  dsimp only
  rw [expand_word (h text htext)]
  simp [Fields.close]

/-! ## Commands -/

/-- **A word that names a program**: it is neither a keyword nor a value for a
parameter. -/
structure Names (word : Word) (name : String) : Prop where
  plain : word.plain? = some name
  unreserved : name ∉ ["!", "\x7b", "if", "while", "until", "for"] ++ closers
  unassigned : assignment? word = none

/-- The letters of a plain word, none of them quoted. -/
theorem plain?_wordOf {name : String} (h : Plain name) :
    (wordOf name.toList).plain? = some name := by
  have hwhole : ∀ cs : List Char, (cs.map fun c => Part.literal [c]).mapM Word.plain?.literal?
      = some (cs.map fun c => [c]) := by
    intro cs
    induction cs with
    | nil => rfl
    | cons c cs ih =>
      rw [List.map_cons, List.mapM_cons, ih]
      rfl
  unfold wordOf Word.plain?
  rw [pieces_of_no_quote h.no_quote]
  have hletters : (name.toList.map fun c => [c]).flatten = name.toList := by
    simp [← List.flatMap_def]
  simp [hwhole, Function.comp_def, hletters]

/-- A word without an equals sign is no value for a parameter. -/
theorem assignment?_wordOf {text : List Char} (h : '=' ∉ text) :
    assignment? (wordOf text) = none := by
  unfold assignment?
  dsimp only
  rw [if_neg]
  rintro ⟨hhead, -⟩
  have hmem := List.mem_of_mem_drop (List.mem_of_mem_head? hhead)
  obtain ⟨part, hpart, hletter⟩ := List.mem_flatMap.1 hmem
  have hin := (List.takeWhile_sublist _).subset hpart
  obtain ⟨piece, hpiece, rfl⟩ := List.mem_map.1 hin
  have hbare : '=' ∈ (pieces false text).flatMap Prod.fst :=
    List.mem_flatMap.2 ⟨piece, hpiece, hletter⟩
  rw [flatMap_pieces] at hbare
  exact h (List.mem_filter.1 hbare).1

theorem names_wordOf (name : String) (hplain : Plain name) (hassign : '=' ∉ name.toList)
    (hname : name ∉ ["!", "\x7b", "if", "while", "until", "for"] ++ closers) :
    Names (wordOf name.toList) name :=
  ⟨plain?_wordOf hplain, hname, assignment?_wordOf hassign⟩

/-- Words are gathered up to what is no word. -/
theorem simple_words (words : List Word) {rest : List Token} (h : simple rest = ([], [], rest)) :
    simple (words.map .word ++ rest) = (words, [], rest) := by
  induction words with
  | nil => exact h
  | cons word words ih =>
    rw [List.map_cons, List.cons_append, simple, ih]

variable {word : Word} {name : String} {words : List Word} {rest : List Token}

/-- **Words that begin with the name of a program** are a simple command. -/
theorem parseCommand_words (hname : Names word name) (hrest : simple rest = ([], [], rest))
    (fuel : Nat) : parseCommand (fuel + 1) ((word :: words).map .word ++ rest)
      = .ok (.command [] (word :: words), rest) := by
  have hkeyword : keyword? ((word :: words).map Token.word ++ rest) = some name := hname.plain
  have hsimple : parseSimple ((word :: words).map .word ++ rest)
      = (.command [] (word :: words), rest) := by
    unfold parseSimple
    rw [simple_words _ hrest]
    simp [values, hname.unassigned, Script.redirecting]
  have hreserved := hname.unreserved
  unfold parseCommand
  rw [hkeyword, hsimple]
  split <;> simp_all [closers]

/-- ... and a pipeline of one command where no bar follows. -/
theorem parsePipeline_words (words : List Word) (rest : List Token) (hname : Names word name)
    (hrest : simple rest = ([], [], rest)) (hbar : ∀ more, rest ≠ .operator "|" :: more)
    (fuel : Nat) :
    parsePipeline (fuel + 2) ((word :: words).map .word ++ rest)
      = .ok (.command [] (word :: words), rest) := by
  have hkeyword : keyword? ((word :: words).map Token.word ++ rest) = some name := hname.plain
  have hbang : name ≠ "!" := by
    rintro rfl
    exact hname.unreserved List.mem_cons_self
  unfold parsePipeline
  rw [hkeyword, if_neg (fun h => hbang (Option.some.inj h)), parseCommand_words hname hrest]
  simp only [bind, Except.bind]
  rfl

/-- **Two commands with `&&` between them**, and nothing else. -/
theorem parse_and {script : List Char} {first second : Word} {firstName secondName : String}
    {more others : List Word} (hfirst : Names first firstName) (hsecond : Names second secondName)
    (hread : read .start .none script
      = .ok ((first :: more).map .word ++ .operator "&&" :: (second :: others).map .word)) :
    parse script
      = .ok (.thenIf true (.command [] (first :: more)) (.command [] (second :: others))) := by
  have hleft (fuel : Nat) := parsePipeline_words more
    (.operator "&&" :: (second :: others).map .word) hfirst rfl (by simp) fuel
  have hright (fuel : Nat) := parsePipeline_words others [] hsecond rfl (by simp) fuel
  rw [List.append_nil] at hright
  have hthen (fuel : Nat) : parseThen (fuel + 3) (.command [] (first :: more))
      (.operator "&&" :: (second :: others).map .word)
        = .ok (.thenIf true (.command [] (first :: more))
          (.command [] (second :: others)), []) := by
    rw [parseThen]
    show (parsePipeline (fuel + 2) ((second :: others).map .word) >>= _) = _
    rw [hright]
    rfl
  have hopen : (keyword? ((first :: more).map Token.word
      ++ .operator "&&" :: (second :: others).map .word)).any closers.contains = false := by
    have hname : firstName ∉ closers := fun hmem =>
      hfirst.unreserved (List.mem_append_right _ hmem)
    rw [show keyword? ((first :: more).map Token.word ++ _) = some firstName from hfirst.plain]
    simpa using hname
  have hends : skipEnds ((first :: more).map Token.word
      ++ .operator "&&" :: (second :: others).map .word)
        = (first :: more).map Token.word ++ .operator "&&" :: (second :: others).map .word := rfl
  have hlist (fuel : Nat) : parseList (fuel + 5)
      ((first :: more).map .word ++ .operator "&&" :: (second :: others).map .word)
        = .ok (.thenIf true (.command [] (first :: more))
          (.command [] (second :: others)), []) := by
    rw [parseList]
    simp only [hends, hopen, hleft, bind, Except.bind, hthen]
    rw [if_neg (by simp)]
    rfl
  unfold parse
  rw [hread]
  simp only [bind, Except.bind]
  rw [show ∀ n, 8 * n + 8 = (8 * n + 3) + 5 from fun n => rfl, hlist]
  rfl

end LedgerNet.Shell
