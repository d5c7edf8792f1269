import ActionRelay.Proofs.Declaration.Numbering
/-!
# Declarations — visiting an arena

A visit follows numbers; what it meets can be said without them. Started at
a declaration, it meets what a walk of the declaration itself meets, in the
same order and with the same labels (`Arena.forall₂_visit`), wherever in the
arena the parts of the declaration are listed. In terms of numbers, a visit
meets exactly the declarations below the one where it starts
(`Arena.mem_subtree_iff`), and their numbers ascend
(`Arena.pairwise_id_subtree`): the order of a queue is the order of the
arena, restricted to what the queue reaches.
-/

namespace ActionRelay

namespace Declaration

variable {β : Type}

/-! ## Walking a declaration -/

/-- Walks the queued declarations and all below them in the order of the
queue. Each one comes with the label it was queued with, and its members
are queued with the label that `pass` makes of it. -/
def walk (pass : β → Declaration → β) :
    (queue : List (β × Declaration)) → List (β × Declaration)
  | [] => []
  | (label, d) :: queue =>
    (label, d) :: walk pass (queue ++ d.members.map (pass label d, ·))
termination_by queue => countAll (queue.map Prod.snd)
decreasing_by
  have := countAll_append_members d (queue.map Prod.snd)
  simp only [List.map_append, List.map_map, Function.comp_def, List.map_id', List.map_cons]
  omega

/-- Labels do not matter for the order. -/
theorem map_snd_walk (pass : β → Declaration → β) (queue : List (β × Declaration)) :
    (walk pass queue).map Prod.snd = breadthFirst (queue.map Prod.snd) := by
  fun_induction walk pass queue with
  | case1 => simp [breadthFirst]
  | case2 label d queue ih =>
    rw [List.map_cons, ih, List.map_cons, breadthFirst]
    simp only [List.map_append, List.map_map, Function.comp_def, List.map_id']

/-- Declarations that correspond, and whose members do, are walked in
correspondence. -/
theorem forall₂_walk {R : Declaration → Declaration → Prop} {pass : β → Declaration → β}
    (hmembers : ∀ d d', R d d' → List.Forall₂ R d.members d'.members)
    (hpass : ∀ label d d', R d d' → pass label d = pass label d')
    {queue queue' : List (β × Declaration)}
    (h : List.Forall₂ (fun x y => x.1 = y.1 ∧ R x.2 y.2) queue queue') :
    List.Forall₂ (fun x y => x.1 = y.1 ∧ R x.2 y.2) (walk pass queue) (walk pass queue') := by
  fun_induction walk pass queue generalizing queue' with
  | case1 =>
    cases h
    rw [walk]
    exact List.Forall₂.nil
  | case2 label d queue ih =>
    obtain ⟨⟨label', d'⟩, later, ⟨rfl, hd⟩, hlater, rfl⟩ := List.forall₂_cons_left_iff.1 h
    rw [walk]
    refine List.Forall₂.cons ⟨rfl, hd⟩ (ih (List.rel_append hlater ?_))
    rw [List.forall₂_map_left_iff, List.forall₂_map_right_iff]
    exact (hmembers d d' hd).imp fun _ _ hmember => ⟨hpass label d d' hd, hmember⟩

/-- A walk from one declaration meets what its arena lists. -/
theorem map_snd_walk_singleton (pass : β → Declaration → β) (label : β) (d : Declaration) :
    (walk pass [(label, d)]).map Prod.snd = d.listing :=
  map_snd_walk pass [(label, d)]

/-- Declarations that correspond, and whose members do, are listed in
correspondence. -/
theorem forall₂_listing {R : Declaration → Declaration → Prop} {d d' : Declaration}
    (hmembers : ∀ d d', R d d' → List.Forall₂ R d.members d'.members) (h : R d d') :
    List.Forall₂ R d.listing d'.listing := by
  have hqueue : List.Forall₂ (fun x y => x.1 = y.1 ∧ R x.2 y.2) [((), d)] [((), d')] :=
    List.Forall₂.cons ⟨rfl, h⟩ List.Forall₂.nil
  rw [← map_snd_walk_singleton (fun _ _ => ()) () d, ← map_snd_walk_singleton (fun _ _ => ()) () d',
    List.forall₂_map_left_iff, List.forall₂_map_right_iff]
  exact (forall₂_walk hmembers (fun _ _ _ _ => rfl) hqueue).imp fun _ _ hd => hd.2

/-! ## What a walk meets -/

variable {pass : β → Declaration → β} {queue queue' : List (β × Declaration)}

theorem mem_walk_of_mem {x : β × Declaration} (h : x ∈ queue) : x ∈ walk pass queue := by
  fun_induction walk pass queue with
  | case1 => exact h
  | case2 label d queue ih =>
    rcases List.mem_cons.1 h with rfl | h
    · exact List.mem_cons_self
    · exact List.mem_cons_of_mem _ (ih (List.mem_append_left _ h))

/-- What a walk meets is closed under members. -/
theorem mem_walk_of_mem_members {x : β × Declaration} (h : x ∈ walk pass queue)
    {member : Declaration} (hmember : member ∈ x.2.members) :
    (pass x.1 x.2, member) ∈ walk pass queue := by
  fun_induction walk pass queue with
  | case1 => cases h
  | case2 label d queue ih =>
    refine List.mem_cons_of_mem _ ?_
    rcases List.mem_cons.1 h with rfl | h
    · exact mem_walk_of_mem (List.mem_append_right _ (List.mem_map_of_mem hmember))
    · exact ih h

/-- Where every queued declaration has a partner in the other queue, and
every member of one has a partner among the members of the other, what the
first walk meets has a partner in what the second walk meets. -/
theorem exists_mem_walk {R : Declaration → Declaration → Prop}
    (hmembers : ∀ d d', R d d' → ∀ member ∈ d.members, ∃ member' ∈ d'.members, R member member')
    (hpass : ∀ label d d', R d d' → pass label d = pass label d')
    (h : ∀ x ∈ queue, ∃ y ∈ queue', x.1 = y.1 ∧ R x.2 y.2) :
    ∀ x ∈ walk pass queue, ∃ y ∈ walk pass queue', x.1 = y.1 ∧ R x.2 y.2 := by
  -- the partners need not be queued at the same time, only to be met at some time
  have hmet : ∀ x ∈ queue, ∃ y ∈ walk pass queue', x.1 = y.1 ∧ R x.2 y.2 := by
    intro x hx
    obtain ⟨y, hy, hxy⟩ := h x hx
    exact ⟨y, mem_walk_of_mem hy, hxy⟩
  clear h
  fun_induction walk pass queue with
  | case1 => exact hmet
  | case2 label d queue ih =>
    obtain ⟨⟨label', d'⟩, hd', rfl, hd⟩ := hmet _ List.mem_cons_self
    have hlater : ∀ x ∈ queue ++ d.members.map (pass label d, ·),
        ∃ y ∈ walk pass queue', x.1 = y.1 ∧ R x.2 y.2 := by
      intro x hx
      rcases List.mem_append.1 hx with hx | hx
      · exact hmet x (List.mem_cons_of_mem _ hx)
      · obtain ⟨member, hmember, rfl⟩ := List.mem_map.1 hx
        obtain ⟨member', hmember', hpartner⟩ := hmembers d d' hd member hmember
        exact ⟨_, mem_walk_of_mem_members hd' hmember', hpass label d d' hd, hpartner⟩
    intro x hx
    rcases List.mem_cons.1 hx with rfl | hx
    · exact ⟨_, hd', rfl, hd⟩
    · exact ih hlater x hx

/-- And so has what is listed. -/
theorem exists_mem_listing {R : Declaration → Declaration → Prop} {d d' : Declaration}
    (hmembers : ∀ d d', R d d' → ∀ member ∈ d.members, ∃ member' ∈ d'.members, R member member')
    (h : R d d') : ∀ x ∈ d.listing, ∃ y ∈ d'.listing, R x y := by
  intro x hx
  rw [← map_snd_walk_singleton (fun _ _ => ()) () d] at hx
  rw [← map_snd_walk_singleton (fun _ _ => ()) () d']
  obtain ⟨met, hmet, rfl⟩ := List.mem_map.1 hx
  have hqueue : ∀ x ∈ [((), d)], ∃ y ∈ [((), d')], x.1 = y.1 ∧ R x.2 y.2 := by simpa using h
  obtain ⟨y, hy, -, hxy⟩ := exists_mem_walk hmembers (fun _ _ _ _ => rfl) hqueue met hmet
  exact ⟨y.2, List.mem_map_of_mem hy, hxy⟩

/-! ## What is listed -/

/-- Whether the arena of `n` lists `d` as `entry`. -/
def Lists (n : Declaration) (entry : Entry) (d : Declaration) : Prop :=
  ∃ i, n.listing[i]? = some d ∧ entry = d.entry i (n.memberStart i)

end Declaration

open Declaration

variable {β : Type} {n d : Declaration} {i : ℕ} {ids : List ℕ} {ds : List Declaration}
variable {entry : Entry}

theorem Declaration.Lists.get? (h : n.Lists entry d) :
    (Arena.ofDeclaration n).get? entry.id = some entry := by
  obtain ⟨i, hi, rfl⟩ := h
  rw [id_entry, Arena.get?_of_listing hi]

namespace Arena

/-- Looking numbers up gives entries of the declarations they stand for. -/
theorem forall₂_lookup (h : List.Forall₂ (fun id d => n.listing[id]? = some d) ids ds) :
    List.Forall₂ n.Lists ((ofDeclaration n).lookup ids) ds := by
  induction h with
  | nil => exact List.Forall₂.nil
  | @cons id d ids ds hd _ ih =>
    rw [lookup, List.filterMap_cons_some (get?_of_listing hd)]
    exact List.Forall₂.cons ⟨id, hd, rfl⟩ ih

/-! ## A visit is a walk -/

variable {pass : β → Entry → β} {pass' : β → Declaration → β} {steps : ℕ}
variable {queue : List (β × ℕ)} {queue' : List (β × Declaration)}

/-- One step: the entry at the front of the queue, and the queue after
it. -/
theorem visitWithin_cons (hd : n.listing[i]? = some d) (label : β) :
    (ofDeclaration n).visitWithin pass (steps + 1) ((label, i) :: queue)
      = (label, d.entry i (n.memberStart i)) :: (ofDeclaration n).visitWithin pass steps
          (queue ++ (List.range' (n.memberStart i) d.members.length).map
            (pass label (d.entry i (n.memberStart i)), ·)) := by
  rw [visitWithin, get?_of_listing hd]
  simp only [members_entry]

theorem visitWithin_nil : (ofDeclaration n).visitWithin pass steps [] = [] := by
  cases steps <;> rfl

/-- Of enough steps for a queue, one is for its front and enough are left
for the rest. -/
theorem exists_steps (h : countAll (d :: ds) ≤ steps) :
    ∃ later, steps = later + 1 ∧ countAll (ds ++ d.members) ≤ later := by
  have hcount := countAll_append_members d ds
  exact ⟨steps - 1, by omega, by omega⟩

/-- **A visit with enough steps is a walk.** -/
theorem forall₂_visitWithin
    (hpass : ∀ label entry d, n.Lists entry d → pass label entry = pass' label d)
    (hqueue : List.Forall₂ (fun x y => x.1 = y.1 ∧ n.listing[x.2]? = some y.2) queue queue')
    (hsteps : countAll (queue'.map Prod.snd) ≤ steps) :
    List.Forall₂ (fun x y => x.1 = y.1 ∧ n.Lists x.2 y.2)
      ((ofDeclaration n).visitWithin pass steps queue) (walk pass' queue') := by
  -- along the walk; of the steps, enough are left for what is left in the queue
  fun_induction walk pass' queue' generalizing queue steps with
  | case1 =>
    cases hqueue
    rw [visitWithin_nil]
    exact List.Forall₂.nil
  | case2 label d queue' ih =>
    obtain ⟨⟨_, i⟩, queue, ⟨rfl, hd⟩, hlater, rfl⟩ := List.forall₂_cons_right_iff.1 hqueue
    obtain ⟨left, rfl, hleft⟩ := exists_steps hsteps
    have hlists : n.Lists (d.entry i (n.memberStart i)) d := ⟨i, hd, rfl⟩
    rw [visitWithin_cons hd, hpass _ _ _ hlists]
    refine List.Forall₂.cons ⟨rfl, hlists⟩ (ih (List.rel_append hlater ?_) ?_)
    · rw [List.forall₂_map_left_iff, List.forall₂_map_right_iff]
      exact (forall₂_members hd).imp fun _ _ hmember => ⟨rfl, hmember⟩
    · simpa only [List.map_append, List.map_map, Function.comp_def, List.map_id'] using hleft

/-- **A visit of the whole arena's steps is a walk**, as no declaration has
more nodes than the arena. -/
theorem forall₂_visit
    (hpass : ∀ label entry d, n.Lists entry d → pass label entry = pass' label d)
    (hids : List.Forall₂ (fun id d => n.listing[id]? = some d) ids ds)
    (hcount : countAll ds ≤ n.count) (label : β) :
    List.Forall₂ (fun x y => x.1 = y.1 ∧ n.Lists x.2 y.2)
      ((ofDeclaration n).visit pass label ids) (walk pass' (ds.map (label, ·))) := by
  refine forall₂_visitWithin hpass ?_ ?_
  · rw [List.forall₂_map_left_iff, List.forall₂_map_right_iff]
    exact hids.imp fun _ _ hd => ⟨rfl, hd⟩
  · rw [size_ofDeclaration]
    simpa only [List.map_map, Function.comp_def, List.map_id'] using hcount

/-- **The subtree of a number** lists the declaration with that number and
all below it, as the arena of that declaration would. -/
theorem forall₂_subtree (hd : n.listing[i]? = some d) :
    List.Forall₂ n.Lists ((ofDeclaration n).subtree i) d.listing := by
  have hcount : countAll [d] ≤ n.count := count_le_of_getElem?_listing hd
  have hwalk : List.Forall₂ (fun x y => x.1 = y.1 ∧ n.Lists x.2 y.2)
      ((ofDeclaration n).visit (fun _ _ => ()) () [i])
      (walk (fun _ _ => ()) ([d].map ((), ·))) :=
    forall₂_visit (fun _ _ _ _ => rfl) (List.Forall₂.cons hd List.Forall₂.nil) hcount ()
  rw [subtree, ← map_snd_walk_singleton (fun _ _ => ()) () d, List.forall₂_map_left_iff,
    List.forall₂_map_right_iff]
  exact hwalk.imp fun _ _ h => h.2

/-! ## The numbers that a visit meets -/

/-- The numbers that a visit with enough steps meets are those of its queue
and those of the members of what it meets. -/
theorem map_id_visitWithin
    (hqueue : List.Forall₂ (fun x d => n.listing[x.2]? = some d) queue ds)
    (hsteps : countAll ds ≤ steps) :
    ((ofDeclaration n).visitWithin pass steps queue).map (·.2.id)
      = queue.map Prod.snd
        ++ ((ofDeclaration n).visitWithin pass steps queue).flatMap (·.2.members) := by
  fun_induction breadthFirst ds generalizing queue steps with
  | case1 =>
    cases hqueue
    rw [visitWithin_nil]
    rfl
  | case2 d ds ih =>
    obtain ⟨⟨label, i⟩, queue, hd, hlater, rfl⟩ := List.forall₂_cons_right_iff.1 hqueue
    obtain ⟨left, rfl, hleft⟩ := exists_steps hsteps
    rw [visitWithin_cons hd, List.map_cons, ih (List.rel_append hlater ?_) hleft]
    · simp [Function.comp_def]
    · rw [List.forall₂_map_left_iff]
      exact forall₂_members hd

/-- What a queue of an arena keeps: its numbers are listed and ascend, and
all come before the members of its front. -/
structure InOrder (n : Declaration) (queue : List ℕ) : Prop where
  lt_count : ∀ id ∈ queue, id < n.count
  ascending : queue.Pairwise (· < ·)
  lt_memberStart : ∀ first ∈ queue.head?, ∀ id ∈ queue, id < n.memberStart first

theorem InOrder.singleton (hd : n.listing[i]? = some d) : InOrder n [i] where
  lt_count := by
    have hi : i < n.listing.length := (List.getElem?_eq_some_iff.1 hd).1
    simpa [length_listing] using hi
  ascending := List.pairwise_singleton _ _
  lt_memberStart := by simpa using Declaration.lt_memberStart hd

/-- **One step** keeps a queue in order: the members of its front are
greater than what is queued already, and less than the members of what is
the front then. -/
theorem InOrder.step {rest : List ℕ} (h : InOrder n (i :: rest)) (hd : n.listing[i]? = some d) :
    InOrder n (rest ++ List.range' (n.memberStart i) d.members.length) ∧
      ∀ id ∈ rest ++ List.range' (n.memberStart i) d.members.length, i < id := by
  have hrest : ∀ id ∈ rest, i < id ∧ id < n.memberStart i := fun id hid =>
    ⟨List.rel_of_pairwise_cons h.ascending hid,
      h.lt_memberStart i rfl id (List.mem_cons_of_mem i hid)⟩
  have hstart := Declaration.lt_memberStart hd
  have hbetween : ∀ id ∈ rest ++ List.range' (n.memberStart i) d.members.length,
      i < id ∧ id < n.memberStart i + d.members.length := by
    intro id hid
    rcases List.mem_append.1 hid with hid | hid
    · have := hrest id hid
      omega
    · rw [List.mem_range'_1] at hid
      omega
  refine ⟨⟨fun id hid => ?_, ?_, fun first hfirst id hid => ?_⟩, fun id hid => (hbetween id hid).1⟩
  · have hend := memberStart_add_le_count hd
    have := (hbetween id hid).2
    omega
  · refine List.pairwise_append.2 ⟨h.ascending.of_cons, List.pairwise_lt_range' 1, ?_⟩
    intro queued hqueued member hmember
    rw [List.mem_range'_1] at hmember
    have := hrest queued hqueued
    omega
  · have hlater := memberStart_add_le hd (hbetween first (List.mem_of_mem_head? hfirst)).1
    have := (hbetween id hid).2
    omega

/-- **A whole visit** from a queue in order meets ascending numbers, all of
them greater than what the queued ones are greater than. -/
theorem InOrder.visitWithin (h : InOrder n (queue.map Prod.snd)) :
    ((ofDeclaration n).visitWithin pass steps queue).Pairwise (fun x y => x.2.id < y.2.id) ∧
      ∀ bound : ℕ, (∀ id ∈ queue.map Prod.snd, bound < id) →
        ∀ x ∈ (ofDeclaration n).visitWithin pass steps queue, bound < x.2.id := by
  -- the bound is for the front of the queue before, which is less than all that is queued
  induction steps generalizing queue with
  | zero => exact ⟨List.Pairwise.nil, fun _ _ x hx => by cases hx⟩
  | succ steps ih =>
    rcases queue with - | ⟨⟨label, i⟩, queue⟩
    · exact ⟨List.Pairwise.nil, fun _ _ x hx => by cases hx⟩
    have hi : i < n.listing.length := by
      rw [length_listing]
      exact h.lt_count i (by simp)
    have hd := List.getElem?_eq_getElem hi
    obtain ⟨horder, hgreater⟩ := InOrder.step h hd
    rw [visitWithin_cons hd]
    have hqueue : (queue ++ (List.range' (n.memberStart i) n.listing[i].members.length).map
        (pass label (n.listing[i].entry i (n.memberStart i)), ·)).map Prod.snd
          = queue.map Prod.snd ++ List.range' (n.memberStart i) n.listing[i].members.length := by
      simp [Function.comp_def]
    rw [← hqueue] at horder hgreater
    obtain ⟨hlater, hbound⟩ := ih horder
    have hfirst := hbound i hgreater
    refine ⟨List.Pairwise.cons (by simpa using hfirst) hlater, ?_⟩
    intro bound hall x hx
    have hlt : bound < i := hall i (by simp)
    rcases List.mem_cons.1 hx with rfl | hx
    · rwa [id_entry]
    · exact Nat.lt_trans hlt (hfirst x hx)

/-- **The numbers in a subtree ascend.** -/
theorem pairwise_id_subtree (hd : n.listing[i]? = some d) :
    ((ofDeclaration n).subtree i).Pairwise fun a b => a.id < b.id := by
  rw [subtree, List.pairwise_map]
  have horder : InOrder n ([((), i)].map Prod.snd) := InOrder.singleton hd
  exact horder.visitWithin.1

/-! ## What is below a number -/

/-- The numbers of a declaration and of all declarations in it. -/
inductive Below (arena : Arena) (id : DeclId) : DeclId → Prop
  | self : Below arena id id
  | member {above : DeclId} {entry : Entry} {member : DeclId} :
    Below arena id above → arena.get? above = some entry → member ∈ entry.members →
      Below arena id member

theorem Below.trans {arena : Arena} {id above below : DeclId} (h : arena.Below id above)
    (h' : arena.Below above below) : arena.Below id below := by
  induction h' with
  | self => exact h
  | member _ hget hmember ih => exact ih.member hget hmember

/-- Numbers do not descend on the way down. -/
theorem Below.le {id below : DeclId} (h : (ofDeclaration n).Below id below) : id ≤ below := by
  induction h with
  | self => exact Nat.le_refl id
  | member _ hget hmember ih =>
    exact Nat.le_trans ih (Nat.le_of_lt (lt_of_mem_members hget hmember).1)

/-- The member in a position is below the number of the declaration. -/
theorem below_member {k : ℕ} (hd : n.listing[i]? = some d) (hk : k < d.members.length) :
    (ofDeclaration n).Below i (n.memberStart i + k) := by
  refine Below.self.member (get?_of_listing hd) ?_
  rw [members_entry, List.mem_range'_1]
  omega

/-- The numbers in a subtree: that of the declaration itself, and those of
the members of what is in the subtree. -/
theorem map_id_subtree (hd : n.listing[i]? = some d) :
    ((ofDeclaration n).subtree i).map Entry.id
      = i :: ((ofDeclaration n).subtree i).flatMap Entry.members := by
  have hcount : countAll [d] ≤ (ofDeclaration n).size := by
    rw [size_ofDeclaration]
    exact count_le_of_getElem?_listing hd
  rw [subtree, List.map_map, List.flatMap_map]
  exact map_id_visitWithin (List.Forall₂.cons hd List.Forall₂.nil) hcount

theorem get?_of_mem_subtree (hd : n.listing[i]? = some d)
    (h : entry ∈ (ofDeclaration n).subtree i) :
    (ofDeclaration n).get? entry.id = some entry := by
  obtain ⟨k, hk, rfl⟩ := List.getElem_of_mem h
  have hlists := forall₂_subtree hd
  exact (hlists.get hk (hlists.length_eq ▸ hk)).get?

/-- What is in a subtree is below its number. The number of a member is
greater than that of what it is a member of, so the induction is on
numbers. -/
theorem below_of_mem_subtree (hd : n.listing[i]? = some d)
    (h : entry ∈ (ofDeclaration n).subtree i) : (ofDeclaration n).Below i entry.id := by
  induction hid : entry.id using Nat.strongRecOn generalizing entry with
  | ind id ih =>
    have hmem : id ∈ ((ofDeclaration n).subtree i).map Entry.id := hid ▸ List.mem_map_of_mem h
    rw [map_id_subtree hd, List.mem_cons, List.mem_flatMap] at hmem
    rcases hmem with rfl | ⟨above, habove, hmember⟩
    · exact Below.self
    · have hget := get?_of_mem_subtree hd habove
      have hlt := (lt_of_mem_members hget hmember).1
      exact (ih above.id hlt habove rfl).member hget hmember

/-- And everything below is in the subtree, which is closed under
members. -/
theorem mem_map_id_subtree_of_below (hd : n.listing[i]? = some d) {id : DeclId}
    (h : (ofDeclaration n).Below i id) : id ∈ ((ofDeclaration n).subtree i).map Entry.id := by
  rw [map_id_subtree hd]
  induction h with
  | self => exact List.mem_cons_self
  | @member above entry member _ hget hmember ih =>
    rw [← map_id_subtree hd] at ih
    obtain ⟨entry', hentry', rfl⟩ := List.mem_map.1 ih
    obtain rfl : entry' = entry :=
      Option.some.inj ((get?_of_mem_subtree hd hentry').symm.trans hget)
    exact List.mem_cons_of_mem _ (List.mem_flatMap.2 ⟨entry', hentry', hmember⟩)

/-- **A subtree holds exactly what is below its number.** -/
theorem mem_subtree_iff (hd : n.listing[i]? = some d) :
    entry ∈ (ofDeclaration n).subtree i ↔
      (ofDeclaration n).get? entry.id = some entry ∧ (ofDeclaration n).Below i entry.id := by
  constructor
  · exact fun h => ⟨get?_of_mem_subtree hd h, below_of_mem_subtree hd h⟩
  · rintro ⟨hget, hbelow⟩
    obtain ⟨entry', hentry', hid⟩ := List.mem_map.1 (mem_map_id_subtree_of_below hd hbelow)
    rw [← hid, get?_of_mem_subtree hd hentry'] at hget
    exact Option.some.inj hget ▸ hentry'

end Arena

end ActionRelay
