import ActionRelay.Proofs.TypeExpr.Reader
/-!
# Type expressions — reading accepts exactly the grammar

Reading never turns back, so that nothing of the grammar is lost has to be
shown for each production: what it derives is read back in front of any
tokens that do not go on with it (`TypeExpr.Derives.readBack`). Together with
`TypeExpr.readsGrammar` this gives the texts that are understood
(`TypeExpr.read?_eq_some_iff`) and what becomes of every text
(`TypeExpr.ofText_eq_iff_spelling`).
-/

namespace ActionRelay

namespace TypeExpr

/-- None of `marks` is the next sign. -/
def StopsAt (marks : List Char) (rest : List Token) : Prop :=
  ∀ mark ∈ marks, rest.head? ≠ some (.sign mark)

/-- The tokens are read back as the phrase, in front of any tokens that do
not go on with it and whenever the levels left are enough. -/
def Phrase.ReadBack (tokens : List Token) : Phrase → Prop
  | .type t => ∀ depth rest, t.budget ≤ depth → StopsAt ['?', '.', '<'] rest →
      Reads (readType depth) (tokens ++ rest) t rest
  | .base b => ∀ depth rest, b.budget ≤ depth → StopsAt ['.', '<'] rest →
      Reads (readBase (innerReader depth)) (tokens ++ rest) b rest
  | .types ts => ∀ depth close rest, maxBudget ts ≤ depth → close ∈ [')', '>'] →
      Reads (readList (readType depth) close) (tokens ++ .sign close :: rest) ts rest
  | .path segments => ∀ depth rest, pathBudget segments ≤ depth → StopsAt ['.', '<'] rest →
      Reads (readPath (innerReader depth)) (tokens ++ rest) segments rest
  | .segment s => ∀ depth rest, s.budget ≤ depth → StopsAt ['<'] rest →
      Reads (readSegment (innerReader depth)) (tokens ++ rest) s rest

variable {inner : Option (Reader TypeExpr)} {tokens rest : List Token} {marks : List Char}

theorem stopsAt_sign {mark : Char} (hmark : mark ∉ marks) :
    StopsAt marks (.sign mark :: rest) := by
  rintro mark' hmem heq
  simp only [List.head?_cons, Option.some.injEq, Token.sign.injEq] at heq
  exact hmark (heq ▸ hmem)

theorem StopsAt.mono {marks' : List Char} (h : StopsAt marks rest) (hsub : marks' ⊆ marks) :
    StopsAt marks' rest :=
  fun mark hmark => h mark (hsub hmark)

/-- Marks `?` keep the reader of a base from going on. -/
theorem StopsAt.replicate {n : ℕ} (h : StopsAt ['?', '.', '<'] rest) :
    StopsAt ['.', '<'] (List.replicate n (.sign '?') ++ rest) := by
  rcases n with - | n
  · exact h.mono (by decide)
  · exact stopsAt_sign (by decide)

/-! ## How what is read starts -/

theorem exists_word_of_reads {segments : List Segment}
    (h : Reads (readPath inner) tokens segments rest) :
    ∃ name later, tokens = .word name :: later := by
  obtain ⟨s, later, hsegment, -⟩ := reads_readPath.1 h
  obtain ⟨name, rfl, -⟩ | ⟨name, item, later, arguments, -, rfl, -⟩ :=
    reads_readSegment.1 hsegment
  · exact ⟨name, _, rfl⟩
  · exact ⟨name, _, rfl⟩

/-- No type starts with a closing parenthesis, so `(` and `)` are read as
the empty tuple only where no list can be read. -/
theorem head?_ne_of_reads {depth : ℕ} {close : Char} {ts : List TypeExpr}
    (h : Reads (readList (readType depth) close) tokens ts rest) :
    tokens.head? ≠ some (.sign ')') := by
  intro hhead
  obtain ⟨later, rfl⟩ := List.head?_eq_some_iff.1 hhead
  obtain ⟨t, mark, later', htype, -⟩ := reads_readList.1 h
  rw [readType_eq] at htype
  obtain ⟨n, b, -, hbase, -⟩ := reads_readMarked.1 htype
  obtain ⟨segments, hpath, -⟩ := (reads_readBase_named (by simp) (by simp)).1 hbase
  obtain ⟨name, later', heq⟩ := exists_word_of_reads hpath
  cases heq

/-! ## Nothing grammatical is lost -/

/-- Brackets leave a level for what stands inside. -/
theorem exists_innerReader {need depth : ℕ} (h : need + 1 ≤ depth) :
    ∃ below, need ≤ below ∧ innerReader depth = some (readType below) := by
  rcases depth with - | below
  · omega
  · exact ⟨below, by omega, rfl⟩

/-- **What the grammar derives is read back.** One case for each
production; in each, the token behind a part is one that the part cannot go
on with. -/
theorem Derives.readBack {phrase : Phrase} (h : Derives phrase tokens) :
    phrase.ReadBack tokens := by
  induction h with
  | @marked b tokens n hbase ih =>
    intro depth rest hbudget hstops
    rw [budget_wrapOptional hbase.marks_base] at hbudget
    -- the base is read in front of its marks, which are then counted to the last
    have hread := ih depth _ (by omega) (hstops.replicate (n := n))
    rw [readType_eq, List.append_assoc]
    exact reads_readMarked.2 ⟨n, b, by omega, hread, hstops '?' (by decide), rfl⟩
  | unit =>
    intro depth rest hbudget _
    obtain ⟨below, -, hinner⟩ := exists_innerReader hbudget
    rw [hinner]
    exact reads_readBase_unit.2 ⟨by simp, rfl, rfl⟩
  | @tuple elements tokens _ ih =>
    intro depth rest hbudget _
    obtain ⟨below, hbelow, hinner⟩ := exists_innerReader hbudget
    have hlist := ih below ')' rest hbelow (by decide)
    rw [hinner, List.cons_append, List.append_assoc, List.singleton_append]
    exact (reads_readBase_tuple (head?_ne_of_reads hlist)).2 ⟨_, elements, rfl, hlist, rfl⟩
  | @array element tokens _ ih =>
    intro depth rest hbudget _
    obtain ⟨below, hbelow, hinner⟩ := exists_innerReader hbudget
    have helement := ih below (.sign ']' :: rest) hbelow (stopsAt_sign (by decide))
    rw [hinner, List.cons_append, List.append_assoc, List.singleton_append]
    exact reads_readBase_bracketed.2
      ⟨_, rfl, reads_readBracketed.2 (Or.inl ⟨element, helement, rfl⟩)⟩
  | @dictionary key value tokens tokens' _ _ ihkey ihvalue =>
    intro depth rest hbudget _
    obtain ⟨below, hbelow, hinner⟩ := exists_innerReader hbudget
    have hvalue := ihvalue below (.sign ']' :: rest) (by omega) (stopsAt_sign (by decide))
    have hkey := ihkey below (.sign ':' :: (tokens' ++ .sign ']' :: rest)) (by omega)
      (stopsAt_sign (by decide))
    rw [hinner, List.cons_append, List.append_assoc, List.cons_append, List.append_assoc,
      List.singleton_append]
    exact reads_readBase_bracketed.2
      ⟨_, rfl, reads_readBracketed.2 (Or.inr ⟨key, value, _, hkey, hvalue, rfl⟩)⟩
  | @named segments tokens _ ih =>
    intro depth rest hbudget hstops
    have hpath := ih depth rest hbudget hstops
    -- a path starts with a word, so no bracket is taken for its start
    obtain ⟨name, later, hword⟩ := exists_word_of_reads hpath
    exact (reads_readBase_named (by simp [hword]) (by simp [hword])).2 ⟨segments, hpath, rfl⟩
  | @lastType t tokens _ ih =>
    intro depth close rest hbudget hclose
    obtain ⟨hmarks, hcomma⟩ : close ∉ ['?', '.', '<'] ∧ close ≠ ',' := by
      simp only [List.mem_cons, List.not_mem_nil, or_false] at hclose
      rcases hclose with rfl | rfl
      · decide
      · decide
    have htype := ih depth (.sign close :: rest) (by simpa [maxBudget] using hbudget)
      (stopsAt_sign hmarks)
    exact reads_readList.2 ⟨t, close, rest, htype, Or.inl ⟨hcomma, rfl, rfl, rfl⟩⟩
  | @moreTypes t ts tokens tokens' _ _ ihfirst ihlater =>
    intro depth close rest hbudget hclose
    rw [maxBudget] at hbudget
    have hlater := ihlater depth close rest (by omega) hclose
    have hfirst := ihfirst depth (.sign ',' :: (tokens' ++ .sign close :: rest)) (by omega)
      (stopsAt_sign (by decide))
    rw [List.append_assoc, List.cons_append]
    exact reads_readList.2 ⟨t, ',', _, hfirst, Or.inr ⟨rfl, ts, hlater, rfl⟩⟩
  | @lastSegment s tokens _ ih =>
    intro depth rest hbudget hstops
    have hsegment := ih depth rest (by simpa [pathBudget] using hbudget) (hstops.mono (by decide))
    exact reads_readPath.2 ⟨s, rest, hsegment, Or.inl ⟨hstops '.' (by decide), rfl, rfl⟩⟩
  | @moreSegments s segments tokens tokens' _ _ ihfirst ihlater =>
    intro depth rest hbudget hstops
    rw [pathBudget] at hbudget
    have hlater := ihlater depth rest (by omega) hstops
    have hfirst := ihfirst depth (.sign '.' :: (tokens' ++ rest)) (by omega)
      (stopsAt_sign (by decide))
    rw [List.append_assoc, List.cons_append]
    exact reads_readPath.2 ⟨s, _, hfirst, Or.inr ⟨_, segments, rfl, hlater, rfl⟩⟩
  | plain name =>
    intro depth rest _ hstops
    exact reads_readSegment.2 (Or.inl ⟨name, rfl, hstops '<' (by decide), rfl⟩)
  | @generic arguments tokens name hderives ih =>
    intro depth rest hbudget _
    -- an argument list takes a level because it is never empty
    rw [Segment.budget, hderives.isEmpty_types] at hbudget
    obtain ⟨below, hbelow, hinner⟩ := exists_innerReader hbudget
    have hlist := ih below '>' rest hbelow (by decide)
    rw [hinner, List.cons_append, List.cons_append, List.append_assoc, List.singleton_append]
    exact reads_readSegment.2 (Or.inr ⟨name, _, _, arguments, rfl, rfl, hlist, rfl⟩)

/-! ## The texts that are understood -/

variable {t u : TypeExpr}

/-- All of the tokens are read as a type, if they derive one that needs no
more than `depth` levels. -/
theorem reads_readType_nil {depth : ℕ} :
    Reads (readType depth) tokens t [] ↔ Derives (.type t) tokens ∧ t.budget ≤ depth := by
  constructor
  · intro h
    obtain ⟨used, rfl, hderives, hbudget⟩ := readsGrammar depth tokens t [] h
    rw [List.append_nil]
    exact ⟨hderives, hbudget⟩
  · rintro ⟨hderives, hbudget⟩
    have hread := hderives.readBack depth [] hbudget (by simp [StopsAt])
    rwa [List.append_nil] at hread

/-- Where a type ends can be told from what follows it. Both types are read
once the levels are enough for either. -/
theorem Derives.append_inj {tokens' rest' : List Token} (ht : Derives (.type t) tokens)
    (hu : Derives (.type u) tokens') (hrest : StopsAt ['?', '.', '<'] rest)
    (hrest' : StopsAt ['?', '.', '<'] rest') (h : tokens ++ rest = tokens' ++ rest') :
    t = u ∧ rest = rest' := by
  have hreadt := ht.readBack (max t.budget u.budget) rest (le_max_left _ _) hrest
  have hreadu := hu.readBack (max t.budget u.budget) rest' (le_max_right _ _) hrest'
  rw [Reads] at hreadt hreadu
  rwa [← h, hreadt, Option.some.injEq, Prod.mk.injEq] at hreadu

/-- **No list of tokens is derived from two types.** -/
theorem Derives.unique (ht : Derives (.type t) tokens) (hu : Derives (.type u) tokens) :
    t = u := by
  have hstops : StopsAt ['?', '.', '<'] [] := by simp [StopsAt]
  exact (ht.append_inj hu hstops hstops rfl).1

theorem ofTokens?_eq_some_iff :
    ofTokens? tokens = some t ↔ Derives (.type t) tokens ∧ t.budget ≤ maxDepth := by
  rw [← reads_readType_nil, Reads, ofTokens?]
  rcases readType maxDepth tokens with - | ⟨t', - | ⟨token, rest⟩, shorter⟩
  · simp
  · simp
  · simp

theorem Spelling.unique {text : String} (ht : Spelling text t) (hu : Spelling text u) : t = u := by
  obtain ⟨tokens, hspells, hderives⟩ := ht
  obtain ⟨tokens', hspells', hderives'⟩ := hu
  obtain rfl : tokens = tokens' :=
    Option.some.inj (hspells.scan_eq.symm.trans hspells'.scan_eq)
  exact hderives.unique hderives'

/-- A text is understood if it spells a type that is not nested too
deeply. -/
theorem read?_eq_some_iff {text : String} :
    read? text = some t ↔ Spelling text t ∧ t.budget ≤ maxDepth := by
  rw [read?, Option.bind_eq_some_iff]
  constructor
  · rintro ⟨tokens, hscan, hread⟩
    obtain ⟨hderives, hbudget⟩ := ofTokens?_eq_some_iff.1 hread
    exact ⟨⟨tokens, Token.scan_eq_some_iff.1 hscan, hderives⟩, hbudget⟩
  · rintro ⟨⟨tokens, hspells, hderives⟩, hbudget⟩
    exact ⟨tokens, hspells.scan_eq, ofTokens?_eq_some_iff.2 ⟨hderives, hbudget⟩⟩

/-- Whether a type is more than a text kept as it stands. -/
def isStructural : TypeExpr → Bool
  | .verbatim _ => false
  | _ => true

theorem isStructural_wrapOptional (n : ℕ) (h : t.isStructural = true) :
    (wrapOptional n t).isStructural = true := by
  rcases n with - | n
  · exact h
  · rfl

/-- The grammar derives no text kept as it stands. -/
theorem Derives.isStructural (h : Derives (.type t) tokens) : t.isStructural = true := by
  cases h with
  | marked n hbase => exact isStructural_wrapOptional n (by cases hbase <;> rfl)

/-- A text that is understood gives the type that it spells, any other one
is kept. -/
theorem ofText_cases (text : String) :
    (∃ t, read? text = some t ∧ ofText text = t ∧ t.isStructural = true) ∨
      (read? text = none ∧ ofText text = .verbatim (Text.trim text)) := by
  rcases hread : read? text with - | t
  · exact Or.inr ⟨rfl, by rw [ofText, hread]; rfl⟩
  · obtain ⟨⟨tokens, -, hderives⟩, -⟩ := read?_eq_some_iff.1 hread
    exact Or.inl ⟨t, rfl, by rw [ofText, hread]; rfl, hderives.isStructural⟩

/-- **Reading accepts exactly the grammar.** A text gives a structural type
if and only if it is a spelling of that type and the type needs at most 128
levels; every other text is kept without the blanks at its ends; and no text
spells two types. -/
theorem ofText_eq_iff_spelling (text : String) :
    (∀ t, ofText text = t ∧ t.isStructural = true ↔ Spelling text t ∧ t.budget ≤ 128) ∧
      ((∀ t, ¬ (Spelling text t ∧ t.budget ≤ 128)) →
        ofText text = .verbatim (Text.trim text)) ∧
      ∀ t u, Spelling text t → Spelling text u → t = u := by
  refine ⟨fun t => ?_, fun hnone => ?_, fun t u ht hu => ht.unique hu⟩
  · rw [← maxDepth, ← read?_eq_some_iff]
    obtain ⟨u, hread, hof, hu⟩ | ⟨hread, hof⟩ := ofText_cases text
    · rw [hread, hof, Option.some.injEq]
      exact ⟨fun h => h.1, fun h => ⟨h, h ▸ hu⟩⟩
    · rw [hread, hof]
      constructor
      · rintro ⟨rfl, hstructural⟩
        cases hstructural
      · intro h
        cases h
  · obtain ⟨t, hread, -⟩ | ⟨-, hof⟩ := ofText_cases text
    · exact absurd (read?_eq_some_iff.1 hread) (hnone t)
    · exact hof

-- two words in a row are no type
example : ofText " some View " = .verbatim "some View" := by cbv

end TypeExpr

end ActionRelay
