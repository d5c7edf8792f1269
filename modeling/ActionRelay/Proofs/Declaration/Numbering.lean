import ActionRelay.Declaration.Arena
import Mathlib.Data.List.Forall2
/-!
# Declarations — which number a declaration gets

A queue hands declarations out in one order (`Declaration.breadthFirst`),
and what is handed out is the queue itself, followed by the members of
everything handed out (`breadthFirst_eq_append`). All facts about numbers
are read off this equation: the declaration with the number `i` is the one
in the place `i` of that order (`Arena.get?_ofDeclaration`), and its members
stand together in the order, from the place `memberStart i` on, which is
the number that the first of them was promised (`forall₂_members`).
-/

namespace ActionRelay

namespace Declaration

variable {d : Declaration} {queue : List Declaration} {i j id next : ℕ}

/-! ## The order of a queue -/

/-- A step of a queue hands out one node. -/
theorem countAll_append_members (d : Declaration) (queue : List Declaration) :
    countAll (queue ++ d.members) + 1 = countAll (d :: queue) := by
  rw [countAll_append, countAll, count_eq]
  omega

/-- Declarations take their own nodes with them. -/
theorem countAll_flatMap_members (ds : List Declaration) :
    countAll (ds.flatMap members) + ds.length = countAll ds := by
  induction ds with
  | nil => rfl
  | cons d ds ih =>
    rw [List.flatMap_cons, countAll_append, countAll, count_eq, List.length_cons, ← ih]
    omega

/-- The queued declarations and all below them, in the order in which they
leave the queue. -/
def breadthFirst : (queue : List Declaration) → List Declaration
  | [] => []
  | d :: queue => d :: breadthFirst (queue ++ d.members)
termination_by queue => countAll queue
decreasing_by
  have := countAll_append_members d queue
  omega

theorem length_breadthFirst (queue : List Declaration) :
    (breadthFirst queue).length = countAll queue := by
  fun_induction breadthFirst queue with
  | case1 => rfl
  | case2 d queue ih => rw [List.length_cons, ih, countAll_append_members]

/-- **What leaves a queue**: the queue itself, then the members of
everything that left it. -/
theorem breadthFirst_eq_append (queue : List Declaration) :
    breadthFirst queue = queue ++ (breadthFirst queue).flatMap members := by
  fun_induction breadthFirst queue with
  | case1 => rfl
  | case2 d queue ih =>
    rw [List.flatMap_cons, List.cons_append, ← List.append_assoc, ← ih]

theorem count_le_of_mem_breadthFirst (h : d ∈ breadthFirst queue) : d.count ≤ countAll queue := by
  fun_induction breadthFirst queue with
  | case1 => cases h
  | case2 first queue ih =>
    rcases List.mem_cons.1 h with rfl | hlater
    · rw [countAll]
      omega
    · have := ih hlater
      have := countAll_append_members first queue
      omega

/-- Before the last declaration has left it, the queue is not empty: fewer
have left it than were put into it. -/
theorem lt_length_add_of_lt (h : i < (breadthFirst queue).length) :
    i < queue.length + (((breadthFirst queue).take i).flatMap members).length := by
  fun_induction breadthFirst queue generalizing i with
  | case1 => simp at h
  | case2 d queue ih =>
    rcases i with - | i
    · simp
    · have := ih (by simpa using h)
      simp only [List.length_append] at this
      simp only [List.take_succ_cons, List.flatMap_cons, List.length_append, List.length_cons]
      omega

/-! ## How a queue is numbered -/

@[simp] theorem id_entry : (d.entry id next).id = id := by
  cases d <;> rfl

@[simp] theorem site_entry : (d.entry id next).site = d.site := by
  cases d <;> rfl

@[simp] theorem members_entry : (d.entry id next).members = List.range' next d.members.length := by
  cases d <;> rfl

/-- Each declaration is listed in the place in which it leaves the queue,
and its members get the numbers after those promised before. -/
theorem getElem?_number (id next : ℕ) (queue : List Declaration) (i : ℕ) :
    (number id next queue)[i]? = (breadthFirst queue)[i]?.map fun d =>
      d.entry (id + i) (next + (((breadthFirst queue).take i).flatMap members).length) := by
  fun_induction breadthFirst queue generalizing id next i with
  | case1 => simp [number]
  | case2 d queue ih =>
    rw [number]
    rcases i with - | i
    · simp
    · simp only [List.getElem?_cons_succ, ih, List.take_succ_cons, List.flatMap_cons,
        List.length_append, Nat.add_assoc, Nat.add_comm 1 i]

theorem length_number (id next : ℕ) (queue : List Declaration) :
    (number id next queue).length = countAll queue := by
  fun_induction number id next queue with
  | case1 => rfl
  | case2 id next d queue ih => rw [List.length_cons, ih, countAll_append_members]

/-- What is listed knows its number. -/
theorem map_id_number (id next : ℕ) (queue : List Declaration) :
    (number id next queue).map Entry.id = List.range' id (countAll queue) := by
  fun_induction number id next queue with
  | case1 => rfl
  | case2 id next d queue ih =>
    rw [List.map_cons, ih, id_entry, ← countAll_append_members, List.range'_succ]

/-- The numbers of members, one list after the other, leave none out. -/
theorem flatMap_members_number (id next : ℕ) (queue : List Declaration) :
    (number id next queue).flatMap Entry.members
      = List.range' next ((breadthFirst queue).flatMap members).length := by
  fun_induction breadthFirst queue generalizing id next with
  | case1 => simp [number]
  | case2 d queue ih =>
    rw [number, List.flatMap_cons, ih, members_entry, List.flatMap_cons, List.length_append,
      List.range'_append_1]

/-! ## The numbers of one declaration -/

/-- A declaration and all below it, each in the place of its number. -/
def listing (n : Declaration) : List Declaration :=
  breadthFirst [n]

/-- The number of the first member of the declaration number `i`. -/
def memberStart (n : Declaration) (i : ℕ) : ℕ :=
  1 + ((n.listing.take i).flatMap members).length

variable {n : Declaration}

@[simp]
theorem memberStart_zero (n : Declaration) : n.memberStart 0 = 1 :=
  rfl

theorem length_listing (n : Declaration) : n.listing.length = n.count := by
  rw [listing, length_breadthFirst, countAll, countAll, Nat.add_zero]

theorem listing_eq_cons (n : Declaration) : n.listing = n :: n.listing.flatMap members :=
  breadthFirst_eq_append [n]

theorem getElem?_listing_zero (n : Declaration) : n.listing[0]? = some n := by
  rw [listing_eq_cons]
  rfl

theorem count_le_of_getElem?_listing (h : n.listing[i]? = some d) : d.count ≤ n.count := by
  have hle := count_le_of_mem_breadthFirst (List.mem_of_getElem? h)
  rwa [countAll, countAll, Nat.add_zero] at hle

/-- Members have greater numbers than what they are members of. -/
theorem lt_memberStart (h : n.listing[i]? = some d) : i < n.memberStart i :=
  lt_length_add_of_lt (List.getElem?_eq_some_iff.1 h).1

/-- The listing around the members of one declaration: those of everything
before it come first. -/
theorem listing_split (h : n.listing[i]? = some d) :
    n.listing = n :: ((n.listing.take i).flatMap members
      ++ (d.members ++ (n.listing.drop (i + 1)).flatMap members)) := by
  obtain ⟨hi, hd⟩ := List.getElem?_eq_some_iff.1 h
  conv_lhs => rw [listing_eq_cons, ← List.take_append_drop i n.listing]
  rw [List.flatMap_append, List.drop_eq_getElem_cons hi, List.flatMap_cons, hd]

/-- **Members have the numbers that they were promised.** -/
theorem forall₂_members (h : n.listing[i]? = some d) :
    List.Forall₂ (fun m member => n.listing[m]? = some member)
      (List.range' (n.memberStart i) d.members.length) d.members := by
  have hsplit := listing_split h
  rw [memberStart]
  generalize (n.listing.take i).flatMap members = before at hsplit ⊢
  refine List.forall₂_iff_get.2 ⟨by simp, fun j _ hj => ?_⟩
  simp only [List.get_eq_getElem, List.getElem_range', Nat.one_mul]
  rw [hsplit, show 1 + before.length + j = before.length + j + 1 by omega,
    List.getElem?_cons_succ, List.getElem?_append_right (by omega), Nat.add_sub_cancel_left,
    List.getElem?_append_left hj, List.getElem?_eq_getElem hj]

/-- The member in a position has the number for that position. -/
theorem getElem?_listing_member {member : Declaration} {k : ℕ} (h : n.listing[i]? = some d)
    (hmember : d.members[k]? = some member) : n.listing[n.memberStart i + k]? = some member := by
  obtain ⟨hk, rfl⟩ := List.getElem?_eq_some_iff.1 hmember
  have hlisted := (forall₂_members h).get (by simpa using hk) hk
  simpa using hlisted

/-- The members of an earlier declaration come before those of a later
one. -/
theorem memberStart_add_le (h : n.listing[i]? = some d) (hij : i < j) :
    n.memberStart i + d.members.length ≤ n.memberStart j := by
  have htake : n.listing.take (i + 1) = n.listing.take i ++ [d] := by
    rw [List.take_add_one, h, Option.toList_some]
  obtain ⟨between, hbetween⟩ : n.listing.take (i + 1) <+: n.listing.take j :=
    List.take_prefix_take_left hij
  rw [memberStart, memberStart, ← hbetween, htake]
  simp only [List.flatMap_append, List.flatMap_singleton, List.length_append]
  omega

theorem memberStart_add_le_count (h : n.listing[i]? = some d) :
    n.memberStart i + d.members.length ≤ n.count := by
  have hall := congrArg List.length (listing_split h)
  rw [length_listing] at hall
  simp only [List.length_cons, List.length_append] at hall
  rw [memberStart]
  omega

end Declaration

/-! ## The arena of a declaration -/

namespace Arena

open Declaration

theorem size_ofDeclaration (n : Declaration) : (ofDeclaration n).size = n.count := by
  rw [size, ofDeclaration, List.size_toArray, length_number, countAll, countAll, Nat.add_zero]

/-- **The declaration with a number**, with the numbers of its members. -/
theorem get?_ofDeclaration (n : Declaration) (i : DeclId) :
    (ofDeclaration n).get? i = n.listing[i]?.map (·.entry i (n.memberStart i)) := by
  rw [get?, ofDeclaration, List.getElem?_toArray, getElem?_number, Nat.zero_add]
  rfl

theorem get?_of_listing {n d : Declaration} {i : ℕ} (hd : n.listing[i]? = some d) :
    (ofDeclaration n).get? i = some (d.entry i (n.memberStart i)) := by
  rw [get?_ofDeclaration, hd, Option.map_some]

theorem map_id_ofDeclaration (n : Declaration) :
    (ofDeclaration n).entries.toList.map Entry.id = List.range n.count := by
  rw [ofDeclaration, map_id_number, List.range_eq_range', countAll, countAll, Nat.add_zero]

/-- What is listed under a number is the entry of one declaration. -/
theorem exists_listing_of_get? {n : Declaration} {i : DeclId} {entry : Entry}
    (h : (ofDeclaration n).get? i = some entry) :
    ∃ d, n.listing[i]? = some d ∧ entry = d.entry i (n.memberStart i) := by
  rw [get?_ofDeclaration, Option.map_eq_some_iff] at h
  obtain ⟨d, hd, rfl⟩ := h
  exact ⟨d, hd, rfl⟩

/-- Members are in the arena, behind what they are members of. -/
theorem lt_of_mem_members {n : Declaration} {i member : DeclId} {entry : Entry}
    (h : (ofDeclaration n).get? i = some entry) (hmember : member ∈ entry.members) :
    i < member ∧ member < n.count := by
  obtain ⟨d, hd, rfl⟩ := exists_listing_of_get? h
  rw [members_entry, List.mem_range'_1] at hmember
  exact ⟨Nat.lt_of_lt_of_le (lt_memberStart hd) hmember.1,
    Nat.lt_of_lt_of_le hmember.2 (memberStart_add_le_count hd)⟩

/-- The numbers of members, one list after the other. -/
theorem flatMap_members_ofDeclaration (n : Declaration) :
    (ofDeclaration n).entries.toList.flatMap Entry.members = List.range' 1 (n.count - 1) := by
  have hlen := congrArg List.length (listing_eq_cons n)
  rw [length_listing, List.length_cons, listing] at hlen
  rw [ofDeclaration, flatMap_members_number, hlen, Nat.add_sub_cancel]

end Arena

end ActionRelay
