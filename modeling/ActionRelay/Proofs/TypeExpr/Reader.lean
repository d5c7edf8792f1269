import ActionRelay.Proofs.TypeExpr.Grammar
/-!
# Type expressions — what is read is grammatical

`Reads reader tokens value rest` says that a reader takes a value from the
front of a list of tokens and what it leaves. The first part gives, for each
reader, what it accepts, in terms of the readers that it calls; no later
proof opens a reader. The second part derives that only types of the grammar
are read (`TypeExpr.readsGrammar`), by induction on the levels of nesting
that are left: what stands between brackets is read with one level less.
-/

namespace ActionRelay

namespace TypeExpr

variable {α : Type}

/-- The reader takes `value` from the front of `tokens` and leaves
`rest`. -/
def Reads (reader : Reader α) (tokens : List Token) (value : α) (rest : List Token) : Prop :=
  (reader tokens).map (fun parsed => (parsed.value, parsed.rest)) = some (value, rest)

variable {item : Reader TypeExpr} {inner : Option (Reader TypeExpr)} {close : Char}
variable {tokens rest : List Token}

theorem reads_iff {reader : Reader α} {value : α} :
    Reads reader tokens value rest ↔ ∃ shorter, reader tokens = some ⟨value, rest, shorter⟩ := by
  rw [Reads]
  rcases reader tokens with - | ⟨value', rest', shorter⟩
  · simp
  · simp only [Option.map_some, Option.some.injEq, Prod.mk.injEq, Parsed.mk.injEq]
    exact ⟨fun ⟨hvalue, hrest⟩ => ⟨hrest ▸ shorter, hvalue, hrest⟩, fun ⟨_, h⟩ => h⟩

theorem reads_of_eq {reader : Reader α} {value : α} {shorter : rest.length < tokens.length}
    (h : reader tokens = some ⟨value, rest, shorter⟩) : Reads reader tokens value rest :=
  reads_iff.2 ⟨shorter, h⟩

/-! ## What each reader accepts -/

/-- A list is one type and the closing sign, or one type, a comma and a
list. -/
theorem reads_readList {ts : List TypeExpr} :
    Reads (readList item close) tokens ts rest ↔
      ∃ t mark later, Reads item tokens t (.sign mark :: later) ∧
        ((mark ≠ ',' ∧ mark = close ∧ ts = [t] ∧ later = rest) ∨
          (mark = ',' ∧ ∃ us, Reads (readList item close) later us rest ∧ ts = t :: us)) := by
  constructor
  · intro h
    rw [Reads, readList] at h
    rcases hitem : item tokens with - | ⟨t, later, hlt⟩
    · simp [hitem] at h
    rcases later with - | ⟨name | mark, later⟩
    · simp [hitem] at h
    · simp [hitem] at h
    -- the sign behind the first type decides
    refine ⟨t, mark, later, reads_of_eq hitem, ?_⟩
    simp only [hitem] at h
    by_cases hcomma : mark = ','
    · rcases hlater : readList item close later with - | ⟨us, rest', hlt'⟩
      · simp [hcomma, hlater] at h
      · simp only [hcomma, if_true, hlater, Option.map_some, Option.some.injEq, Prod.mk.injEq] at h
        exact Or.inr ⟨hcomma, us, h.2 ▸ reads_of_eq hlater, h.1.symm⟩
    · by_cases hclose : mark = close
      · subst hclose
        simp only [hcomma, if_false, if_true, Option.map_some, Option.some.injEq,
          Prod.mk.injEq] at h
        exact Or.inl ⟨hcomma, rfl, h.1.symm, h.2⟩
      · simp [hcomma, hclose] at h
  · rintro ⟨t, mark, later, hitem, h⟩
    obtain ⟨hlt, hitem⟩ := reads_iff.1 hitem
    rw [Reads, readList]
    simp only [hitem]
    rcases h with ⟨hcomma, rfl, rfl, rfl⟩ | ⟨rfl, us, hus, rfl⟩
    · simp [hcomma]
    · obtain ⟨hlt', hus⟩ := reads_iff.1 hus
      simp [hus]

/-- A segment is a word that no argument list follows, or a word and its
arguments. -/
theorem reads_readSegment {s : Segment} :
    Reads (readSegment inner) tokens s rest ↔
      (∃ name, tokens = .word name :: rest ∧ rest.head? ≠ some (.sign '<') ∧ s = ⟨name, []⟩) ∨
        ∃ name item later arguments, inner = some item ∧
          tokens = .word name :: .sign '<' :: later ∧
          Reads (readList item '>') later arguments rest ∧ s = ⟨name, arguments⟩ := by
  constructor
  · intro h
    rcases tokens with - | ⟨name | mark, later⟩
    · simp [Reads, readSegment] at h
    · by_cases hnext : later.head? = some (.sign '<')
      · obtain ⟨later, rfl⟩ := List.head?_eq_some_iff.1 hnext
        rcases inner with - | item
        · simp [Reads, readSegment] at h
        simp only [Reads, readSegment] at h
        rcases hlist : readList item '>' later with - | ⟨arguments, rest', hlt⟩
        · simp [hlist] at h
        · simp only [hlist, Option.map_some, Option.some.injEq, Prod.mk.injEq] at h
          exact Or.inr ⟨name, item, later, arguments, rfl, rfl, h.2 ▸ reads_of_eq hlist, h.1.symm⟩
      · rw [Reads, readSegment] at h
        · simp only [Option.map_some, Option.some.injEq, Prod.mk.injEq] at h
          obtain ⟨rfl, rfl⟩ := h
          exact Or.inl ⟨name, rfl, hnext, rfl⟩
        · rintro later' rfl
          exact hnext rfl
    · simp [Reads, readSegment] at h
  · rintro (⟨name, rfl, hnext, rfl⟩ | ⟨name, item, later, arguments, rfl, rfl, hlist, rfl⟩)
    · rw [Reads, readSegment]
      · rfl
      · rintro later' rfl
        exact hnext rfl
    · obtain ⟨hlt, hlist⟩ := reads_iff.1 hlist
      simp [Reads, readSegment, hlist]

/-- A path is a segment that no dot follows, or a segment, a dot and a
path. -/
theorem reads_readPath {segments : List Segment} :
    Reads (readPath inner) tokens segments rest ↔
      ∃ s later, Reads (readSegment inner) tokens s later ∧
        ((later.head? ≠ some (.sign '.') ∧ segments = [s] ∧ later = rest) ∨
          ∃ later' more, later = .sign '.' :: later' ∧ Reads (readPath inner) later' more rest ∧
            segments = s :: more) := by
  constructor
  · intro h
    rw [Reads, readPath] at h
    rcases hseg : readSegment inner tokens with - | ⟨s, later, hlt⟩
    · simp [hseg] at h
    refine ⟨s, later, reads_of_eq hseg, ?_⟩
    simp only [hseg] at h
    by_cases hnext : later.head? = some (.sign '.')
    · obtain ⟨later', rfl⟩ := List.head?_eq_some_iff.1 hnext
      simp only at h
      rcases hpath : readPath inner later' with - | ⟨more, rest', hlt'⟩
      · simp [hpath] at h
      · simp only [hpath, Option.map_some, Option.some.injEq, Prod.mk.injEq] at h
        exact Or.inr ⟨later', more, rfl, h.2 ▸ reads_of_eq hpath, h.1.symm⟩
    · split at h
      · exact absurd rfl hnext
      · simp only [Option.map_some, Option.some.injEq, Prod.mk.injEq] at h
        exact Or.inl ⟨hnext, h.1.symm, h.2⟩
  · rintro ⟨s, later, hseg, h⟩
    obtain ⟨hlt, hseg⟩ := reads_iff.1 hseg
    rw [Reads, readPath]
    simp only [hseg]
    rcases h with ⟨hnext, rfl, rfl⟩ | ⟨later', more, rfl, hpath, rfl⟩
    · split
      · exact absurd rfl hnext
      · rfl
    · obtain ⟨hlt', hpath⟩ := reads_iff.1 hpath
      simp [hpath]

/-- Behind an opening bracket stands an array or a dictionary. -/
theorem reads_readBracketed {t : TypeExpr} :
    Reads (readBracketed item) tokens t rest ↔
      (∃ element, Reads item tokens element (.sign ']' :: rest) ∧ t = .array element) ∨
        ∃ key value later, Reads item tokens key (.sign ':' :: later) ∧
          Reads item later value (.sign ']' :: rest) ∧ t = .dictionary key value := by
  constructor
  · intro h
    rw [Reads, readBracketed] at h
    rcases hitem : item tokens with - | ⟨first, later, hlt⟩
    · simp [hitem] at h
    simp only [hitem] at h
    split at h
    case h_1 rest' =>
      simp only [Option.map_some, Option.some.injEq, Prod.mk.injEq] at h
      exact Or.inl ⟨first, h.2 ▸ reads_of_eq hitem, h.1.symm⟩
    case h_2 later' =>
      rcases hitem' : item later' with - | ⟨second, last, hlt'⟩
      · simp [hitem'] at h
      simp only [hitem'] at h
      split at h
      case h_1 rest' =>
        simp only [Option.map_some, Option.some.injEq, Prod.mk.injEq] at h
        exact Or.inr ⟨first, second, later', reads_of_eq hitem, h.2 ▸ reads_of_eq hitem', h.1.symm⟩
      case h_2 => simp at h
    case h_3 => simp at h
  · rintro (⟨element, hitem, rfl⟩ | ⟨key, value, later, hkey, hvalue, rfl⟩)
    · obtain ⟨hlt, hitem⟩ := reads_iff.1 hitem
      simp [Reads, readBracketed, hitem]
    · obtain ⟨hlt, hkey⟩ := reads_iff.1 hkey
      obtain ⟨hlt', hvalue⟩ := reads_iff.1 hvalue
      simp [Reads, readBracketed, hkey, hvalue]

theorem reads_readBase_unit {t : TypeExpr} :
    Reads (readBase inner) (.sign '(' :: .sign ')' :: tokens) t rest ↔
      inner ≠ none ∧ tokens = rest ∧ t = .tuple [] := by
  rcases inner with - | item
  · simp [Reads, readBase]
  · simp only [Reads, readBase, Option.map_some, Option.some.injEq, Prod.mk.injEq, ne_eq,
      reduceCtorEq, not_false_eq_true, true_and]
    exact ⟨fun h => ⟨h.2, h.1.symm⟩, fun h => ⟨h.2.symm, h.1⟩⟩

theorem reads_readBase_tuple {t : TypeExpr} (hnext : tokens.head? ≠ some (.sign ')')) :
    Reads (readBase inner) (.sign '(' :: tokens) t rest ↔
      ∃ item elements, inner = some item ∧ Reads (readList item ')') tokens elements rest ∧
        t = .tuple elements := by
  have hnot : ∀ later, tokens = .sign ')' :: later → False := by
    rintro later rfl
    exact hnext rfl
  rcases inner with - | item
  · rw [Reads, readBase]
    · simp
    · exact hnot
  · rw [Reads, readBase]
    · rcases hlist : readList item ')' tokens with - | ⟨elements, rest', hlt⟩
      · simp [Reads, hlist]
      · simp only [Option.map_some, Option.some.injEq, Prod.mk.injEq]
        constructor
        · rintro ⟨rfl, rfl⟩
          exact ⟨item, elements, rfl, reads_of_eq hlist, rfl⟩
        · rintro ⟨item', elements', rfl, hreads, rfl⟩
          rw [Reads, hlist] at hreads
          simpa using hreads
    · exact hnot

theorem reads_readBase_bracketed {t : TypeExpr} :
    Reads (readBase inner) (.sign '[' :: tokens) t rest ↔
      ∃ item, inner = some item ∧ Reads (readBracketed item) tokens t rest := by
  rcases inner with - | item
  · simp [Reads, readBase]
  · simp only [Reads, readBase, Option.some.injEq, exists_eq_left']
    rcases readBracketed item tokens with - | bracketed <;> rfl

/-- A base that starts with none of the brackets is a path. -/
theorem reads_readBase_named {t : TypeExpr} (hparen : tokens.head? ≠ some (.sign '('))
    (hbracket : tokens.head? ≠ some (.sign '[')) :
    Reads (readBase inner) tokens t rest ↔
      ∃ segments, Reads (readPath inner) tokens segments rest ∧ t = .named segments := by
  rw [Reads, readBase]
  · rcases hpath : readPath inner tokens with - | ⟨segments, rest', hlt⟩
    · simp [Reads, hpath]
    · simp only [Option.map_some, Option.some.injEq, Prod.mk.injEq]
      constructor
      · rintro ⟨rfl, rfl⟩
        exact ⟨segments, reads_of_eq hpath, rfl⟩
      · rintro ⟨segments', hreads, rfl⟩
        rw [Reads, hpath] at hreads
        simpa using hreads
  · rintro later rfl
    exact hparen rfl
  · rintro later rfl
    exact hparen rfl
  · rintro later rfl
    exact hbracket rfl

theorem countMarks_replicate {n : ℕ} (hnext : rest.head? ≠ some (.sign '?')) :
    countMarks (List.replicate n (.sign '?') ++ rest) = (n, rest) := by
  induction n with
  | zero =>
    rw [List.replicate_zero, List.nil_append, countMarks]
    rintro later rfl
    exact hnext rfl
  | succ n ih => rw [List.replicate_succ, List.cons_append, countMarks, ih]

theorem countMarks_spec (tokens : List Token) :
    tokens = List.replicate (countMarks tokens).1 (.sign '?') ++ (countMarks tokens).2 ∧
      (countMarks tokens).2.head? ≠ some (.sign '?') := by
  fun_induction countMarks tokens with
  | case1 rest ih => exact ⟨by rw [List.replicate_succ, List.cons_append, ← ih.1], ih.2⟩
  | case2 tokens hnot =>
    refine ⟨rfl, fun hnext => ?_⟩
    obtain ⟨later, rfl⟩ := List.head?_eq_some_iff.1 hnext
    exact hnot later rfl

/-- A type is a base and all the marks behind it, of which there may be
`depth`. -/
theorem reads_readMarked {depth : ℕ} {t : TypeExpr} :
    Reads (readMarked depth inner) tokens t rest ↔
      ∃ n b, n ≤ depth ∧
        Reads (readBase inner) tokens b (List.replicate n (.sign '?') ++ rest) ∧
        rest.head? ≠ some (.sign '?') ∧ t = wrapOptional n b := by
  constructor
  · intro h
    rw [Reads, readMarked] at h
    rcases hbase : readBase inner tokens with - | ⟨b, later, hlt⟩
    · simp [hbase] at h
    simp only [hbase] at h
    split at h
    · rename_i hdepth
      simp only [Option.map_some, Option.some.injEq, Prod.mk.injEq] at h
      obtain ⟨rfl, rfl⟩ := h
      obtain ⟨hlater, hnext⟩ := countMarks_spec later
      exact ⟨_, b, hdepth, hlater ▸ reads_of_eq hbase, hnext, rfl⟩
    · simp at h
  · rintro ⟨n, b, hdepth, hbase, hnext, rfl⟩
    obtain ⟨hlt, hbase⟩ := reads_iff.1 hbase
    simp [Reads, readMarked, hbase, countMarks_replicate hnext, hdepth]

/-- What reads between brackets, with `depth` levels left outside. -/
def innerReader : ℕ → Option (Reader TypeExpr)
  | 0 => none
  | depth + 1 => some (readType depth)

theorem readType_eq (depth : ℕ) : readType depth = readMarked depth (innerReader depth) := by
  cases depth <;> rfl

theorem innerReader_eq_some {depth : ℕ} :
    innerReader depth = some item ↔ ∃ below, depth = below + 1 ∧ item = readType below := by
  cases depth with
  | zero => simp [innerReader]
  | succ below => simp [innerReader, eq_comm]

/-! ## What is read is grammatical -/

/-- With `depth` levels left, only types of the grammar that need no more
levels are read. -/
def ReadsGrammar (depth : ℕ) : Prop :=
  ∀ tokens t rest, Reads (readType depth) tokens t rest →
    ∃ used, tokens = used ++ rest ∧ Derives (.type t) used ∧ t.budget ≤ depth

variable {depth : ℕ}

theorem ReadsGrammar.list (hitem : ReadsGrammar depth) {ts : List TypeExpr}
    (h : Reads (readList (readType depth) close) tokens ts rest) :
    ∃ used, tokens = used ++ .sign close :: rest ∧ Derives (.types ts) used ∧
      maxBudget ts ≤ depth := by
  induction ts generalizing tokens with
  | nil =>
    obtain ⟨t, mark, later, -, ⟨-, -, hts, -⟩ | ⟨-, us, -, hts⟩⟩ := reads_readList.1 h
    · cases hts
    · cases hts
  | cons t ts ih =>
    obtain ⟨t', mark, later, hfirst, hmore⟩ := reads_readList.1 h
    obtain ⟨used, rfl, hderives, hbudget⟩ := hitem _ _ _ hfirst
    rcases hmore with ⟨-, rfl, hts, rfl⟩ | ⟨rfl, us, hlist, hts⟩
    · obtain ⟨rfl, rfl⟩ := List.cons.inj hts
      exact ⟨used, rfl, .lastType hderives, by simpa [maxBudget] using hbudget⟩
    · obtain ⟨rfl, rfl⟩ := List.cons.inj hts
      obtain ⟨used', rfl, hderives', hbudget'⟩ := ih hlist
      refine ⟨used ++ .sign ',' :: used', by simp, .moreTypes hderives hderives', ?_⟩
      rw [maxBudget]
      omega

section Levels

variable (hbelow : ∀ below, depth = below + 1 → ReadsGrammar below)
include hbelow

theorem derives_of_readSegment {s : Segment}
    (h : Reads (readSegment (innerReader depth)) tokens s rest) :
    ∃ used, tokens = used ++ rest ∧ Derives (.segment s) used ∧ s.budget ≤ depth := by
  obtain ⟨name, rfl, -, rfl⟩ | ⟨name, item, later, arguments, hinner, rfl, hlist, rfl⟩ :=
    reads_readSegment.1 h
  · exact ⟨[.word name], rfl, .plain name, by simp [Segment.budget]⟩
  · obtain ⟨below, rfl, rfl⟩ := innerReader_eq_some.1 hinner
    obtain ⟨used, rfl, hderives, hbudget⟩ := (hbelow below rfl).list hlist
    refine ⟨.word name :: .sign '<' :: (used ++ [.sign '>']), by simp, .generic name hderives, ?_⟩
    rw [Segment.budget]
    split <;> omega

theorem derives_of_readPath {segments : List Segment}
    (h : Reads (readPath (innerReader depth)) tokens segments rest) :
    ∃ used, tokens = used ++ rest ∧ Derives (.path segments) used ∧
      pathBudget segments ≤ depth := by
  induction segments generalizing tokens with
  | nil =>
    obtain ⟨s, later, -, ⟨-, hnil, -⟩ | ⟨later', more, -, -, hnil⟩⟩ := reads_readPath.1 h
    · cases hnil
    · cases hnil
  | cons s segments ih =>
    obtain ⟨s', later, hfirst, hmore⟩ := reads_readPath.1 h
    obtain ⟨used, rfl, hderives, hbudget⟩ := derives_of_readSegment hbelow hfirst
    rcases hmore with ⟨-, hcons, rfl⟩ | ⟨later', more, rfl, hpath, hcons⟩
    · obtain ⟨rfl, rfl⟩ := List.cons.inj hcons
      exact ⟨used, rfl, .lastSegment hderives, by simpa [pathBudget] using hbudget⟩
    · obtain ⟨rfl, rfl⟩ := List.cons.inj hcons
      obtain ⟨used', rfl, hderives', hbudget'⟩ := ih hpath
      refine ⟨used ++ .sign '.' :: used', by simp, .moreSegments hderives hderives', ?_⟩
      rw [pathBudget]
      omega

theorem derives_of_readBase {b : TypeExpr}
    (h : Reads (readBase (innerReader depth)) tokens b rest) :
    ∃ used, tokens = used ++ rest ∧ Derives (.base b) used ∧ b.budget ≤ depth := by
  by_cases hparen : tokens.head? = some (.sign '(')
  · obtain ⟨later, rfl⟩ := List.head?_eq_some_iff.1 hparen
    by_cases hclose : later.head? = some (.sign ')')
    · obtain ⟨later, rfl⟩ := List.head?_eq_some_iff.1 hclose
      obtain ⟨hinner, rfl, rfl⟩ := reads_readBase_unit.1 h
      refine ⟨[.sign '(', .sign ')'], rfl, .unit, ?_⟩
      -- even the empty tuple takes a level
      rcases depth with - | below
      · exact absurd rfl hinner
      · simp [budget, maxBudget]
    · obtain ⟨item, elements, hinner, hlist, rfl⟩ := (reads_readBase_tuple hclose).1 h
      obtain ⟨below, rfl, rfl⟩ := innerReader_eq_some.1 hinner
      obtain ⟨used, rfl, hderives, hbudget⟩ := (hbelow below rfl).list hlist
      refine ⟨.sign '(' :: (used ++ [.sign ')']), by simp, .tuple hderives, ?_⟩
      rw [budget]
      omega
  by_cases hbracket : tokens.head? = some (.sign '[')
  · obtain ⟨later, rfl⟩ := List.head?_eq_some_iff.1 hbracket
    obtain ⟨item, hinner, hbracketed⟩ := reads_readBase_bracketed.1 h
    obtain ⟨below, rfl, rfl⟩ := innerReader_eq_some.1 hinner
    obtain ⟨element, helement, rfl⟩ | ⟨key, value, later', hkey, hvalue, rfl⟩ :=
      reads_readBracketed.1 hbracketed
    · obtain ⟨used, rfl, hderives, hbudget⟩ := hbelow below rfl _ _ _ helement
      refine ⟨.sign '[' :: (used ++ [.sign ']']), by simp, .array hderives, ?_⟩
      rw [budget]
      omega
    · obtain ⟨used, rfl, hderives, hbudget⟩ := hbelow below rfl _ _ _ hkey
      obtain ⟨used', rfl, hderives', hbudget'⟩ := hbelow below rfl _ _ _ hvalue
      refine ⟨.sign '[' :: (used ++ .sign ':' :: (used' ++ [.sign ']'])), by simp,
        .dictionary hderives hderives', ?_⟩
      rw [budget]
      omega
  · obtain ⟨segments, hpath, rfl⟩ := (reads_readBase_named hparen hbracket).1 h
    obtain ⟨used, rfl, hderives, hbudget⟩ := derives_of_readPath hbelow hpath
    exact ⟨used, rfl, .named hderives, by rwa [budget]⟩

/-- One level of reading keeps to the grammar if the level below does. -/
theorem readsGrammar_step : ReadsGrammar depth := by
  intro tokens t rest h
  rw [readType_eq] at h
  obtain ⟨n, b, hn, hbase, -, rfl⟩ := reads_readMarked.1 h
  obtain ⟨used, rfl, hderives, hbudget⟩ := derives_of_readBase hbelow hbase
  refine ⟨used ++ List.replicate n (.sign '?'), by simp, .marked n hderives, ?_⟩
  rw [budget_wrapOptional hderives.marks_base]
  omega

end Levels

/-- **What is read is a type of the grammar**, and the levels left are
enough for it. -/
theorem readsGrammar (depth : ℕ) : ReadsGrammar depth := by
  induction depth with
  | zero => exact readsGrammar_step fun below hbelow => by omega
  | succ depth ih =>
    refine readsGrammar_step fun below hbelow => ?_
    obtain rfl : depth = below := by omega
    exact ih

end TypeExpr

end ActionRelay
