import ActionRelay.Proofs.Agreement
import ActionRelay.Proofs.Declaration.Copy
import ActionRelay.Proofs.Survey
/-!
# Locality — a pass sees nothing around its declaration

The parts of a declaration are scattered over the arena of a larger one,
under other numbers than in an arena of their own. A pass that is pointed
at the declaration ends the same way in both
(`Target.generation_eq_generation_alone`), provided that the rule for
reducers does not look at numbers. The rule of the default settings does
not.
-/

namespace ActionRelay

/-- The entry with all numbers left out. -/
def Entry.unnumbered (entry : Entry) : Entry where
  id := 0
  site := entry.site
  kind :=
    match entry.kind with
    | .aggregate head members => .aggregate head (members.map fun _ => 0)
    | .enumCase head => .enumCase head
    | .other => .other

/-- Whether the rule for reducers tells no entries apart that differ in
numbers only. -/
def Settings.IgnoresNumbers (settings : Settings) : Prop :=
  ∀ (entry entry' : Entry) (head : Aggregate), entry.unnumbered = entry'.unnumbered →
    settings.isReducer entry head = settings.isReducer entry' head

theorem conformsTo_congr {entry entry' : Entry} (h : entry.site = entry'.site)
    (capability : String) (head : Aggregate) :
    conformsTo capability entry head = conformsTo capability entry' head := by
  rw [conformsTo, conformsTo, h]

theorem ignoresNumbers_ofConventions (conventions : Conventions) :
    (Settings.ofConventions conventions).IgnoresNumbers := by
  intro entry entry' head h
  exact conformsTo_congr (congrArg Entry.site h) conventions.capability head

/-- However a declaration is numbered, its entry is the same without
numbers. -/
theorem Declaration.unnumbered_entry (d : Declaration) (id next id' next' : DeclId) :
    (d.entry id next).unnumbered = (d.entry id' next').unnumbered := by
  rcases d with ⟨site, head, members⟩ | ⟨site, head⟩ | ⟨site⟩
  · simp [entry, Entry.unnumbered]
  · rfl
  · rfl

/-- **A pass depends only on the declaration it is pointed at**: pointed at
a number, it ends as it does on the declaration with that number alone. -/
theorem Target.generation_eq_generation_alone (n : Declaration) {i : DeclId}
    (hi : i < (Arena.ofDeclaration n).size) (anchor : Span) {settings : Settings}
    (hsettings : settings.IgnoresNumbers) :
    ∃ d, (Arena.ofDeclaration n).declaration? i = some d ∧
      ((Target.mk (.ofDeclaration n) i anchor).generation settings).outcome
        = ((Target.mk (.ofDeclaration d) Arena.root anchor).generation settings).outcome := by
  rw [Arena.size_ofDeclaration, ← Declaration.length_listing] at hi
  have hd := List.getElem?_eq_getElem hi
  refine ⟨n.listing[i], by rw [Arena.declaration?_ofDeclaration, hd], ?_⟩
  generalize n.listing[i] = d at hd
  have haccepts : settings.isReducer (d.entry i (n.memberStart i))
      = settings.isReducer (d.entry 0 (d.memberStart 0)) := by
    funext head
    exact hsettings _ _ head (d.unnumbered_entry _ _ _ _)
  have hthere := yields_survey hd anchor settings
  rw [haccepts] at hthere
  exact hthere.unique (yields_survey d.getElem?_listing_zero anchor settings)

/-- A class that holds the sample reducer behind another declaration, so
that its parts are not numbered one after the other. -/
def packageDeclaration : Declaration :=
  .aggregate {} { kind := .classType, name := "Package" }
    [.aggregate {} { kind := .structType, name := "Empty" } [.other {}], loaderDeclaration]

/-- The sample reducer in it, as the target of a pass. -/
def packagedLoader : Target where
  arena := .ofDeclaration packageDeclaration
  id := 2

theorem packagedLoader_generation : ∃ generated,
    (packagedLoader.generation loaderSettings).outcome = .ok generated ∧
    (loader.generation loaderSettings).outcome = .ok generated := by
  have hloader : (Arena.ofDeclaration packageDeclaration).declaration? 2
      = some loaderDeclaration := by
    rw [Arena.declaration?_ofDeclaration]
    simp [Declaration.listing, Declaration.breadthFirst, packageDeclaration, Declaration.members]
  have hsize : 2 < (Arena.ofDeclaration packageDeclaration).size := by
    rw [Arena.size_ofDeclaration]
    decide
  have hsettings : loaderSettings.IgnoresNumbers := ignoresNumbers_ofConventions {}
  obtain ⟨d, hd, houtcome⟩ :=
    Target.generation_eq_generation_alone packageDeclaration hsize {} hsettings
  obtain rfl := Option.some.inj (hd.symm.trans hloader)
  have hok : ∃ generated, (loader.generation loaderSettings).outcome = .ok generated :=
    ⟨_, by cbv⟩
  obtain ⟨generated, hok⟩ := hok
  exact ⟨generated, houtcome.trans hok, hok⟩

end ActionRelay
