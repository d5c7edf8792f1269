import ActionRelay.Proofs.Declaration.Chains
/-!
# Declarations — worklists

A visit passes over a number that is not listed, and its steps are counted.
The loops of a pass do neither: they go on until their queue is empty, and a
number that is not found stops them for good. Here they stand as they run,
as computations that may be stopped and may never end (`Indexing`). In some
arenas they do not end well: a member may be missing
(`Arena.checkExclusions_of_missing`), or lead back to where it is listed
(`Arena.checkExclusions_of_cycle`). On the arena of a declaration they end, no
number is missing, and they meet what a visit meets:
`Arena.checkExclusions_subtree` says so of the check for misplaced attributes,
`Arena.collectNested_members` of the search for nested types.
-/

namespace ActionRelay

/-! ## Looking numbers up -/

/-- What stops a computation before it has a value. -/
inductive Stop where
  /-- A fault of the declaration, which is reported. -/
  | refused (diagnostic : Diagnostic)
  /-- A number that has to be found and is not. -/
  | notFound (id : DeclId)

/-- A computation that looks numbers up: it has a value, is stopped, or never
ends. -/
abbrev Indexing (α : Type) := ExceptT Stop Part α

namespace Indexing

variable {α β ι : Type}

/-- The computation that ends as `outcome` says: it does end, and no number
is missing. -/
def ends (outcome : Except Diagnostic α) : Indexing α :=
  ExceptT.mk (Part.some (outcome.mapError Stop.refused))

theorem ends_ok_inj {value value' : α} :
    (ends (.ok value) : Indexing α) = ends (.ok value') ↔ value = value' :=
  ⟨fun h => Except.ok.inj (Part.some_injective h), congrArg fun value => ends (.ok value)⟩

/-- What comes next is done with the value, if there is one. -/
theorem ends_bind (outcome : Except Diagnostic α) (next : α → Indexing β) :
    ends outcome >>= next =
      match outcome with
      | .error diagnostic => ends (.error diagnostic)
      | .ok value => next value := by
  rcases outcome with diagnostic | value <;> exact Part.bind_some _ _

theorem ends_bind_pure (outcome : Except Diagnostic α) (make : α → β) :
    (ends outcome >>= fun value => pure (make value)) = ends (outcome.map make) := by
  rcases outcome with diagnostic | value <;> exact Part.bind_some _ _

/-! ### Queues -/

section Queue

variable {visit : ι → Indexing (List α × List ι)} {met : List α} {item : ι} {queue : List ι}

/-- One turn of a loop over a queue: the front is visited, and what the visit
leaves to do goes to the end. The loop is over when nothing is queued or a
visit is stopped. -/
def turn (visit : ι → Indexing (List α × List ι)) :
    List α × List ι → Part (Except Stop (List α) ⊕ List α × List ι)
  | (met, []) => Part.some (.inl (.ok met))
  | (met, item :: queue) => (visit item).run.map fun
    | .error stop => .inl (.error stop)
    | .ok (found, below) => .inr (met ++ found, queue ++ below)

/-- Works until the queue is empty: what was met before, and after it what
the visits find. -/
def drain (visit : ι → Indexing (List α × List ι)) (met : List α) (queue : List ι) :
    Indexing (List α) :=
  ExceptT.mk (PFun.fix (turn visit) (met, queue))

theorem drain_nil : drain visit met [] = pure met :=
  Part.eq_some_iff.2 (PFun.fix_stop (Part.mem_some _))

theorem drain_cons {found : List α} {below : List ι} (h : visit item = pure (found, below)) :
    drain visit met (item :: queue) = drain visit (met ++ found) (queue ++ below) := by
  refine PFun.fix_fwd_eq ?_
  rw [turn, h]
  exact Part.mem_map _ (Part.mem_some _)

theorem drain_cons_of_stop {stop : Stop} (h : visit item = throw stop) :
    drain visit met (item :: queue) = throw stop := by
  refine Part.eq_some_iff.2 (PFun.fix_stop ?_)
  rw [turn, h]
  exact Part.mem_map _ (Part.mem_some _)

/-- A loop never ends if its queues have a property that a turn keeps and
that leaves a next turn to make. -/
theorem drain_eq_none {P : List ι → Prop}
    (hkeeps : ∀ queue, P queue → ∃ item later found below, queue = item :: later ∧
      visit item = pure (found, below) ∧ P (later ++ below))
    (h : P queue) : drain visit met queue = ExceptT.mk Part.none := by
  have hnext : ∀ met queue, P queue → ∃ met' queue', P queue' ∧
      turn visit (met, queue) = Part.some (.inr (met', queue')) := by
    intro met queue h
    obtain ⟨item, later, found, below, rfl, hvisit, hbelow⟩ := hkeeps queue h
    refine ⟨met ++ found, later ++ below, hbelow, ?_⟩
    rw [turn, hvisit]
    exact Part.map_some _ _
  refine Part.eq_none_iff.2 fun outcome hends => ?_
  -- back from the last turn: no queue on the way to an outcome has the property
  refine PFun.fixInduction' (C := fun state => ¬ P state.2) hends ?_ ?_ h
  · rintro ⟨met, queue⟩ hlast h
    obtain ⟨met', queue', -, hturn⟩ := hnext met queue h
    rw [hturn, Part.mem_some_iff] at hlast
    cases hlast
  · rintro ⟨met, queue⟩ state - hstate hlater h
    obtain ⟨met', queue', h', hturn⟩ := hnext met queue h
    rw [hturn, Part.mem_some_iff] at hstate
    cases hstate
    exact hlater h'

end Queue

end Indexing

open Indexing

namespace Arena

/-- The declaration with a number, which has to be there. -/
def index (arena : Arena) (id : DeclId) : Indexing Entry :=
  match arena.get? id with
  | some entry => pure entry
  | none => throw (.notFound id)

/-- Looks numbers up one after the other, until enough of what is found is of
use. -/
def indexUntil {α : Type} (arena : Arena) (use : Entry → Option α) :
    (wanted : ℕ) → List DeclId → Indexing (List α)
  | 0, _ => pure []
  | _ + 1, [] => pure []
  | wanted + 1, id :: ids => do
    let entry ← arena.index id
    match use entry with
    | none => arena.indexUntil use (wanted + 1) ids
    | some found =>
      let later ← arena.indexUntil use wanted ids
      return found :: later

/-- Whether all of the numbers are listed. -/
def Finds (arena : Arena) (ids : List DeclId) : Prop :=
  ∀ id ∈ ids, ∃ entry, arena.get? id = some entry

section Finds

variable {α : Type} {arena : Arena} {id : DeclId} {ids : List DeclId} {entry : Entry}

theorem index_of_get? (h : arena.get? id = some entry) : arena.index id = pure entry := by
  rw [index, h]

/-- Numbers that are listed are all found, as in a look-up that passes over
those that are not. -/
theorem Finds.mapM_index (h : arena.Finds ids) :
    ids.mapM arena.index = pure (arena.lookup ids) := by
  induction ids with
  | nil => rfl
  | cons id ids ih =>
    obtain ⟨entry, hentry⟩ := h id List.mem_cons_self
    have hlater := ih fun later hmem => h later (List.mem_cons_of_mem id hmem)
    rw [List.mapM_cons, index_of_get? hentry, pure_bind, hlater, pure_bind, lookup, lookup,
      List.filterMap_cons_some hentry]

theorem Finds.indexUntil (h : arena.Finds ids) (use : Entry → Option α) (wanted : ℕ) :
    arena.indexUntil use wanted ids = pure (((arena.lookup ids).filterMap use).take wanted) := by
  induction ids generalizing wanted with
  | nil => cases wanted <;> rfl
  | cons id ids ih =>
    rcases wanted with - | wanted
    · rfl
    obtain ⟨entry, hentry⟩ := h id List.mem_cons_self
    have hlater := ih fun later hmem => h later (List.mem_cons_of_mem id hmem)
    have hlookup : arena.lookup (id :: ids) = entry :: arena.lookup ids :=
      List.filterMap_cons_some hentry
    rw [Arena.indexUntil, index_of_get? hentry, pure_bind, hlookup, List.filterMap_cons]
    rcases use entry with - | found
    · exact hlater (wanted + 1)
    · simp only [hlater wanted, pure_bind, List.take_succ_cons]

end Finds

open Declaration

variable {n d : Declaration} {i : ℕ} {ids : List ℕ} {ds : List Declaration} {steps : ℕ}

theorem finds_of_forall₂ (h : List.Forall₂ (fun id d => n.listing[id]? = some d) ids ds) :
    (ofDeclaration n).Finds ids := by
  intro id hid
  obtain ⟨d, -, hd⟩ := exists_mem_of_forall₂ h id hid
  exact ⟨d.entry id (n.memberStart id), get?_of_listing hd⟩

/-- Members are found. -/
theorem finds_members {entry : Entry} (h : (ofDeclaration n).get? i = some entry) :
    (ofDeclaration n).Finds entry.members := by
  obtain ⟨d, hd, rfl⟩ := exists_listing_of_get? h
  rw [members_entry]
  exact finds_of_forall₂ (forall₂_members hd)

/-! ## The check for misplaced attributes -/

/-- What the check does with a declaration: one that is no case and carries
the attribute `exclusion` stops it, the members of any other are next. -/
def visitExclusion (arena : Arena) (exclusion : String) (id : DeclId) :
    Indexing (List Entry × List DeclId) := do
  let entry ← arena.index id
  match entry.misplacedExclusion? exclusion with
  | some diagnostic => ends (.error diagnostic)
  | none => return ([entry], entry.members)

/-- Visits the queued declarations and all below them, up to the first fault. -/
def checkExclusions (arena : Arena) (exclusion : String) (queue : List DeclId) :
    Indexing (List Entry) :=
  drain (arena.visitExclusion exclusion) [] queue

/-- A number that is not listed does stop the check. -/
theorem checkExclusions_of_missing {arena : Arena} {id : DeclId} (h : arena.get? id = none)
    (exclusion : String) (queue : List DeclId) :
    arena.checkExclusions exclusion (id :: queue) = throw (.notFound id) := by
  refine drain_cons_of_stop ?_
  rw [visitExclusion, index, h]
  exact Part.bind_some _ _

/-- A declaration that is its own member keeps it going. -/
theorem checkExclusions_of_cycle {arena : Arena} {id : DeclId} {entry : Entry}
    (h : arena.get? id = some entry) (hmembers : entry.members = [id]) {exclusion : String}
    (hplaced : entry.misplacedExclusion? exclusion = none) :
    arena.checkExclusions exclusion [id] = ExceptT.mk Part.none := by
  refine drain_eq_none (P := (· = [id])) ?_ rfl
  rintro queue rfl
  refine ⟨id, [], [entry], [id], rfl, ?_, rfl⟩
  rw [visitExclusion, index_of_get? h, pure_bind, hplaced, hmembers]

/-- A declaration that is listed is looked at. -/
theorem visitExclusion_of_listing (hd : n.listing[i]? = some d) (exclusion : String) :
    (ofDeclaration n).visitExclusion exclusion i =
      match (d.entry i (n.memberStart i)).misplacedExclusion? exclusion with
      | some diagnostic => ends (.error diagnostic)
      | none => pure ([d.entry i (n.memberStart i)], (d.entry i (n.memberStart i)).members) := by
  rw [visitExclusion, index_of_get? (get?_of_listing hd), pure_bind]

/-- What comes of a check that goes on with the given entries. -/
def checked (exclusion : String) (met entries : List Entry) : Except Diagnostic (List Entry) :=
  match entries.findSome? (·.misplacedExclusion? exclusion) with
  | some diagnostic => .error diagnostic
  | none => .ok (met ++ entries)

theorem checked_cons (exclusion : String) (met : List Entry) (entry : Entry)
    (entries : List Entry) :
    checked exclusion met (entry :: entries) =
      match entry.misplacedExclusion? exclusion with
      | some diagnostic => .error diagnostic
      | none => checked exclusion (met ++ [entry]) entries := by
  rw [checked, checked, List.findSome?_cons, List.append_cons]
  rcases entry.misplacedExclusion? exclusion with - | diagnostic <;> rfl

/-- **The check is a visit** that ends early at a misplaced attribute. -/
theorem drain_visitExclusion (exclusion : String) (met : List Entry)
    (hqueue : List.Forall₂ (fun id d => n.listing[id]? = some d) ids ds)
    (hsteps : countAll ds ≤ steps) :
    drain ((ofDeclaration n).visitExclusion exclusion) met ids = ends (checked exclusion met
      (((ofDeclaration n).visitWithin (fun _ _ => ()) steps (ids.map ((), ·))).map Prod.snd)) := by
  -- a turn takes one node out of what is queued, so the turns come to an end
  fun_induction breadthFirst ds generalizing ids steps met with
  | case1 =>
    cases hqueue
    rw [drain_nil, List.map_nil, visitWithin_nil, List.map_nil, checked, List.append_nil]
    rfl
  | case2 d ds ih =>
    obtain ⟨i, ids, hd, hlater, rfl⟩ := List.forall₂_cons_right_iff.1 hqueue
    obtain ⟨left, rfl, hleft⟩ := exists_steps hsteps
    have hvisit := visitExclusion_of_listing hd exclusion
    rw [List.map_cons, visitWithin_cons hd, List.map_cons, checked_cons]
    rcases hplaced : (d.entry i (n.memberStart i)).misplacedExclusion? exclusion with
      - | diagnostic
    · rw [hplaced] at hvisit
      rw [drain_cons hvisit, members_entry,
        ih _ (List.rel_append hlater (forall₂_members hd)) hleft, List.map_append]
    · rw [hplaced] at hvisit
      exact drain_cons_of_stop hvisit

/-- **The check of a subtree** meets the subtree, and ends with the first
fault there. -/
theorem checkExclusions_subtree (hd : n.listing[i]? = some d) (exclusion : String) :
    (ofDeclaration n).checkExclusions exclusion [i]
      = ends (checked exclusion [] ((ofDeclaration n).subtree i)) := by
  have hcount : countAll [d] ≤ (ofDeclaration n).size := by
    rw [size_ofDeclaration]
    exact count_le_of_getElem?_listing hd
  exact drain_visitExclusion exclusion [] (List.Forall₂.cons hd List.Forall₂.nil) hcount

/-- **Without a misplaced attribute** it visits what is in the subtree, each
declaration once and by ascending number. -/
theorem checkExclusions_of_below {r : DeclId} {exclusion : String}
    (hr : r < (ofDeclaration n).size)
    (hplaced : ∀ below entry, (ofDeclaration n).Below r below →
      (ofDeclaration n).get? below = some entry → entry.misplacedExclusion? exclusion = none) :
    ∃ visited, (ofDeclaration n).checkExclusions exclusion [r] = ends (.ok visited) ∧
      (visited.Pairwise fun a b => a.id < b.id) ∧
      ∀ entry, entry ∈ visited ↔
        (ofDeclaration n).get? entry.id = some entry ∧ (ofDeclaration n).Below r entry.id := by
  rw [size_ofDeclaration, ← length_listing] at hr
  have hd := List.getElem?_eq_getElem hr
  have hnone : ((ofDeclaration n).subtree r).findSome? (·.misplacedExclusion? exclusion)
      = none := by
    refine List.findSome?_eq_none_iff.2 fun entry hentry => ?_
    obtain ⟨hget, hbelow⟩ := (mem_subtree_iff hd).1 hentry
    exact hplaced entry.id entry hbelow hget
  refine ⟨(ofDeclaration n).subtree r, ?_, pairwise_id_subtree hd, fun _ => mem_subtree_iff hd⟩
  rw [checkExclusions_subtree hd, checked, hnone]
  rfl

end Arena

/-! ## The search for nested types -/

/-- An aggregate with the name it has below `parent`; other declarations have
none. -/
def Entry.named? (parent : Option String) (entry : Entry) : Option (String × Entry) :=
  (entry.nestedName? parent).map (·, entry)

/-- Only an aggregate has members. -/
theorem Entry.members_of_nestedName?_eq_none {parent : Option String} {entry : Entry}
    (h : entry.nestedName? parent = none) : entry.members = [] := by
  rcases entry with ⟨id, site, ⟨head, members⟩ | head | -⟩
  · cases h
  · rfl
  · rfl

/-- The members of the aggregates among declarations, each aggregate's
together. -/
def Declaration.memberLists (ds : List Declaration) : List (List Declaration) :=
  ds.filterMap fun d => d.aggregateName?.map fun _ => d.members

/-- Nothing else has members. -/
theorem Declaration.flatten_memberLists (ds : List Declaration) :
    (memberLists ds).flatten = ds.flatMap members := by
  induction ds with
  | nil => rfl
  | cons d ds ih =>
    rw [List.flatMap_cons, ← ih]
    cases d <;> rfl

/-- When the members of some declarations are put in their place, those
declarations are what is taken out. -/
theorem Declaration.countAll_append_memberLists (ds : List Declaration)
    (dss : List (List Declaration)) :
    ds.length + countAll (dss ++ memberLists ds).flatten = countAll (ds :: dss).flatten := by
  have hmembers := countAll_flatMap_members ds
  rw [List.flatten_append, List.flatten_cons, countAll_append, countAll_append,
    flatten_memberLists]
  omega

theorem Declaration.length_append_memberLists (ds : List Declaration)
    (dss : List (List Declaration)) :
    (dss ++ memberLists ds).length ≤ dss.length + ds.length := by
  rw [List.length_append]
  exact Nat.add_le_add_left (List.length_filterMap_le _ ds) _

namespace Arena

/-- What the search does with members that stand below `parent`: each
aggregate among them is found, and its own members are next. -/
def visitMembers (arena : Arena) : Option String × List DeclId →
    Indexing (List (String × Entry) × List (Option String × List DeclId))
  | (parent, members) => do
    let entries ← members.mapM arena.index
    let found := entries.filterMap (Entry.named? parent)
    return (found, found.map fun x => (some x.1, x.2.members))

/-- Lists the aggregates among the queued members and below them, each with
its dotted name. Members are queued together, with the name of the aggregate
they stand in. -/
def collectNested (arena : Arena) (queue : List (Option String × List DeclId)) :
    Indexing (List (String × Entry)) :=
  drain arena.visitMembers [] queue

section Visits

variable {β : Type} (arena : Arena) (pass : β → Entry → β) (label : β)

/-- Of what is queued the front is visited first, and leaves its members at
the end of the queue. -/
theorem visitWithin_map_append (ids : List DeclId) (later : List (β × DeclId)) (steps : ℕ) :
    arena.visitWithin pass (ids.length + steps) (ids.map (label, ·) ++ later)
      = (arena.lookup ids).map (label, ·) ++ arena.visitWithin pass steps
          (later ++ (arena.lookup ids).flatMap fun entry =>
            entry.members.map (pass label entry, ·)) := by
  induction ids generalizing later with
  | nil => simp [lookup]
  | cons id ids ih =>
    rw [List.length_cons, Nat.add_right_comm, List.map_cons, List.cons_append, visitWithin]
    rcases hget : arena.get? id with - | entry
    · rw [lookup, List.filterMap_cons_none hget]
      exact ih later
    · rw [lookup, List.filterMap_cons_some hget]
      simp only [List.append_assoc, ih, List.map_cons, List.cons_append, List.flatMap_cons]
      rfl

/-- Labels do not matter for what is visited. -/
theorem map_snd_visitWithin (steps : ℕ) (queue : List (β × DeclId)) :
    (arena.visitWithin pass steps queue).map Prod.snd
      = (arena.visitWithin (fun _ _ => ()) steps (queue.map fun x => ((), x.2))).map Prod.snd := by
  induction steps generalizing queue with
  | zero => rfl
  | succ steps ih =>
    rcases queue with - | ⟨⟨label, id⟩, queue⟩
    · rfl
    rw [List.map_cons, visitWithin, visitWithin]
    rcases arena.get? id with - | entry
    · exact ih queue
    · simp only [List.map_cons, ih, List.map_append, List.map_map, Function.comp_def]

end Visits

open Declaration

variable {n d : Declaration} {i : ℕ} {ids : List ℕ} {ds : List Declaration} {steps : ℕ}

/-- What the aggregates among entries add to the queue, one number at a
time. -/
theorem flatMap_named (parent : Option String) (entries : List Entry) :
    ((entries.filterMap (Entry.named? parent)).map fun x => (some x.1, x.2.members)).flatMap
        (fun x => x.2.map (x.1, ·))
      = entries.flatMap fun entry => entry.members.map (entry.nestedName? parent, ·) := by
  induction entries with
  | nil => rfl
  | cons entry entries ih =>
    rw [List.filterMap_cons, List.flatMap_cons, ← ih, Entry.named?]
    rcases hname : entry.nestedName? parent with - | name
    · simp [Entry.members_of_nestedName?_eq_none hname]
    · simp

/-- And as declarations. -/
theorem forall₂_named (parent : Option String) {entries : List Entry}
    (h : List.Forall₂ n.Lists entries ds) :
    List.Forall₂ (fun x ds => List.Forall₂ (fun id d => n.listing[id]? = some d) x.2 ds)
      ((entries.filterMap (Entry.named? parent)).map fun x => (some x.1, x.2.members))
      (memberLists ds) := by
  rw [List.forall₂_map_left_iff]
  induction h with
  | nil => exact List.Forall₂.nil
  | @cons entry d entries ds hfirst _ ih =>
    obtain ⟨i, hd, rfl⟩ := hfirst
    rw [memberLists, List.filterMap_cons, List.filterMap_cons, Entry.named?, nestedName?_entry,
      nestedName?_eq_map]
    rcases d.aggregateName? with - | name
    · exact ih
    · refine List.Forall₂.cons ?_ ih
      simp only [members_entry]
      exact forall₂_members hd

/-- Members that are listed are all looked at. -/
theorem visitMembers_of_forall₂ (h : List.Forall₂ (fun id d => n.listing[id]? = some d) ids ds)
    (parent : Option String) :
    (ofDeclaration n).visitMembers (parent, ids) = pure
      (((ofDeclaration n).lookup ids).filterMap (Entry.named? parent),
        (((ofDeclaration n).lookup ids).filterMap (Entry.named? parent)).map fun x =>
          (some x.1, x.2.members)) := by
  rw [visitMembers, (finds_of_forall₂ h).mapM_index, pure_bind]

/-- **The search is a visit**, of which it keeps the aggregates. -/
theorem drain_visitMembers (met : List (String × Entry))
    {queue : List (Option String × List DeclId)} {dss : List (List Declaration)}
    (hqueue : List.Forall₂ (fun x ds => List.Forall₂ (fun id d => n.listing[id]? = some d) x.2 ds)
      queue dss)
    (hsteps : countAll dss.flatten ≤ steps) :
    drain (ofDeclaration n).visitMembers met queue = ends (.ok (met ++
      ((ofDeclaration n).visitWithin (fun parent entry => entry.nestedName? parent) steps
        (queue.flatMap fun x => x.2.map (x.1, ·))).filterMap fun x => x.2.named? x.1)) := by
  -- a turn takes one list out of the queue and puts back one for each aggregate in it, so what
  -- comes down with every turn is the lists and the nodes in them, counted together
  induction hturns : dss.length + countAll dss.flatten using Nat.strong_induction_on
    generalizing queue dss steps met with
  | _ turns ih =>
    cases hqueue with
    | nil =>
      rw [drain_nil, List.flatMap_nil, visitWithin_nil, List.filterMap_nil, List.append_nil]
      rfl
    | @cons x ds queue dss hids hlater =>
      obtain ⟨parent, ids⟩ := x
      have hlength : ids.length = ds.length := hids.length_eq
      have hnodes := countAll_append_memberLists ds dss
      have hlists := length_append_memberLists ds dss
      rw [List.length_cons] at hturns
      have hfewer : (dss ++ memberLists ds).length + countAll (dss ++ memberLists ds).flatten
          < turns := by omega
      obtain ⟨left, rfl⟩ : ∃ left, steps = ids.length + left := ⟨steps - ids.length, by omega⟩
      have hleft : countAll (dss ++ memberLists ds).flatten ≤ left := by omega
      have hnext : List.Forall₂ _ (queue ++ _) (dss ++ memberLists ds) :=
        List.rel_append hlater (forall₂_named parent (forall₂_lookup hids))
      rw [drain_cons (visitMembers_of_forall₂ hids parent), ih _ hfewer _ hnext hleft rfl,
        List.flatMap_append, flatMap_named, List.flatMap_cons, visitWithin_map_append,
        List.filterMap_append, List.filterMap_map, List.append_assoc]
      rfl

/-- Any number of steps will do for the visit that is enough for what is
below the members. -/
theorem collectNested_eq (h : List.Forall₂ (fun id d => n.listing[id]? = some d) ids ds)
    (hsteps : countAll ds ≤ steps) :
    (ofDeclaration n).collectNested [(none, ids)] = ends (.ok
      (((ofDeclaration n).visitWithin (fun parent entry => entry.nestedName? parent) steps
        (ids.map (none, ·))).filterMap fun x => x.2.named? x.1)) := by
  have hqueue : List.Forall₂ (fun (x : Option String × List DeclId) ds =>
      List.Forall₂ (fun id d => n.listing[id]? = some d) x.2 ds) [(none, ids)] [ds] :=
    List.Forall₂.cons h List.Forall₂.nil
  rw [← List.flatten_singleton (l := ds)] at hsteps
  rw [collectNested, drain_visitMembers [] hqueue hsteps, List.flatMap_singleton, List.nil_append]

/-- Of what is visited, the search keeps the aggregates. -/
theorem map_snd_named (visited : List (Option String × Entry)) :
    (visited.filterMap fun x => x.2.named? x.1).map Prod.snd
      = (visited.map Prod.snd).filter fun entry => entry.aggregate?.isSome := by
  rw [← List.filterMap_eq_filter, List.filterMap_map, List.map_filterMap]
  refine List.filterMap_congr fun x _ => ?_
  obtain ⟨parent, ⟨id, site, ⟨head, members⟩ | head | -⟩⟩ := x <;> rfl

/-- **The search in an aggregate** lists its nested types, and meets the
aggregates in its subtree, itself left out. -/
theorem collectNested_members (hd : n.listing[i]? = some d) :
    ∃ found, (ofDeclaration n).collectNested [(none, (d.entry i (n.memberStart i)).members)]
        = ends (.ok found) ∧
      found.map Prod.fst
        = (ofDeclaration n).nestedTypes (d.entry i (n.memberStart i)).members ∧
      found.map Prod.snd
        = ((ofDeclaration n).subtree i).tail.filter fun entry => entry.aggregate?.isSome := by
  have hcount : countAll [d] ≤ (ofDeclaration n).size := by
    rw [size_ofDeclaration]
    exact count_le_of_getElem?_listing hd
  obtain ⟨left, hsize, hleft⟩ := exists_steps hcount
  rw [List.nil_append] at hleft
  have hmembers := forall₂_members hd
  rw [← @members_entry d i (n.memberStart i)] at hmembers
  generalize hids : (d.entry i (n.memberStart i)).members = ids at hmembers ⊢
  refine ⟨_, collectNested_eq hmembers hleft, ?_, ?_⟩
  · -- the names are those of the visit, which makes one step more
    have hsteps : countAll d.members ≤ (ofDeclaration n).size := by omega
    have hvisit := collectNested_eq hmembers hsteps
    rw [ends_ok_inj.1 ((collectNested_eq hmembers hleft).symm.trans hvisit), List.map_filterMap]
    refine List.filterMap_congr fun x _ => ?_
    simp [Entry.named?, Function.comp_def]
  · rw [map_snd_named, map_snd_visitWithin, subtree, visit, hsize, List.map_singleton,
      visitWithin_cons hd, List.map_cons, List.tail_cons, List.nil_append,
      ← @members_entry d i (n.memberStart i), hids]
    simp only [List.map_map, Function.comp_def]

/-- **The search visits each nested aggregate once**, by ascending number. -/
theorem collectNested_of_get? {u : DeclId} {entry : Entry}
    (h : (ofDeclaration n).get? u = some entry) :
    ∃ found, (ofDeclaration n).collectNested [(none, entry.members)] = ends (.ok found) ∧
      found.map Prod.fst = (ofDeclaration n).nestedTypes entry.members ∧
      (found.map (·.2.id)).Pairwise (· < ·) ∧
      ∀ inner, inner ∈ found.map (·.2.id) ↔ ∃ head, (ofDeclaration n).Nests u inner head := by
  obtain ⟨d, hd, rfl⟩ := exists_listing_of_get? h
  obtain ⟨found, hfound, hnames, hentries⟩ := collectNested_members hd
  obtain ⟨first, rest, hsubtree, hfirst, -⟩ := exists_subtree_eq_cons hd
  have hascending := pairwise_id_subtree hd
  rw [hsubtree] at hascending hentries
  have hids : found.map (·.2.id)
      = (rest.filter fun entry => entry.aggregate?.isSome).map Entry.id := by
    rw [List.tail_cons] at hentries
    rw [← hentries, List.map_map]
    rfl
  refine ⟨found, hfound, hnames, ?_, fun inner => ?_⟩
  · rw [hids, List.pairwise_map]
    exact hascending.of_cons.filter _
  · rw [hids]
    exact (nests_iff_mem hd hsubtree hfirst).symm

end Arena

end ActionRelay
