import Mathlib.Combinatorics.SimpleGraph.Metric
import PrplMesh.Lib.AList

/-!
This module contains the breadth first search in a finite graph.
-/

namespace SimpleGraph

variable {α : Type u} {G : SimpleGraph α} {root : α}

theorem Reachable.dist_le_of_adj {a b : α} (h : G.Reachable root a) (hadj : G.Adj a b)
    : G.dist root b ≤ G.dist root a + 1 := by
  have := h.dist_triangle_left b
  rwa [dist_eq_one_iff_adj.mpr hadj] at this

theorem Reachable.exists_closer {a : α} (h : G.Reachable root a) (hne : a ≠ root)
    : ∃ b, G.Reachable root b ∧ G.Adj b a ∧ G.dist root b < G.dist root a := by
  obtain ⟨walk, hlen⟩ := h.exists_walk_length_eq_dist
  have hnil : ¬ walk.Nil := fun hnil => hne hnil.eq.symm
  refine ⟨walk.penultimate, ⟨walk.dropLast⟩, walk.adj_penultimate hnil, ?_⟩
  have hle := dist_le walk.dropLast
  have hsucc := walk.length_dropLast_add_one hnil
  omega

end SimpleGraph

structure NeighborLists (α : Type u) where
  nodes : List α
  neighbors : α → List α
  mem_nodes : ∀ {a b}, b ∈ neighbors a → b ∈ nodes

namespace Bfs

structure State (α : Type u) where
  visited : List α
  predecessor : AList (fun _ : α => α)
  queue : List α

variable {α : Type u} [DecidableEq α]

def enqueue (current : α) (s : State α) (a : α) : State α :=
  if a ∈ s.visited then
    s
  else
    { visited := a :: s.visited
      predecessor := s.predecessor.insert a current
      queue := s.queue ++ [a] }

section

variable (g : NeighborLists α) (current : α) (s : State α)

def visit : State α :=
  (g.neighbors current).foldl (enqueue current) s

def unvisited (s : State α) : Nat :=
  g.nodes.countP (· ∉ s.visited)

theorem unvisited_enqueue {a : α} (ha : a ∈ g.nodes)
    : 2 * unvisited g (enqueue current s a) + (enqueue current s a).queue.length
        ≤
      2 * unvisited g s + s.queue.length := by
  unfold enqueue
  split
  . exact Nat.le_refl _
  next hnew =>
  have himp : ∀ b, decide (b ∉ a :: s.visited) → decide (b ∉ s.visited) := by
    intro b hb
    simp only [List.mem_cons, not_or, decide_eq_true_eq] at hb ⊢
    exact hb.2
  have hle : g.nodes.countP (· ∉ a :: s.visited) ≤ g.nodes.countP (· ∉ s.visited) :=
    List.countP_mono_left (fun b _ => himp b)
  have hne : g.nodes.countP (· ∉ a :: s.visited) ≠ g.nodes.countP (· ∉ s.visited) := by
    intro heq
    have := (AList.countP_eq_countP_iff himp g.nodes).mp heq a ha (by simpa using hnew)
    simp at this
  unfold unvisited
  simp only [List.length_append, List.length_singleton]
  omega

theorem unvisited_visit
    : 2 * unvisited g (visit g current s) + (visit g current s).queue.length
        ≤
      2 * unvisited g s + s.queue.length := by
  have hnodes : ∀ a ∈ g.neighbors current, a ∈ g.nodes := fun a => g.mem_nodes
  unfold visit
  generalize g.neighbors current = neighbors at hnodes
  induction neighbors generalizing s with
  | nil => exact Nat.le_refl _
  | cons a neighbors ih =>
    rw [List.foldl_cons]
    have hhead := unvisited_enqueue g current s (hnodes a (by simp))
    have htail := ih (enqueue current s a) (fun b hb => hnodes b (by simp [hb]))
    omega

end

def search.go (g : NeighborLists α) (s : State α) : State α :=
  match _h : s.queue with
  | [] => s
  | current :: queue => go g (visit g current { s with queue })
termination_by 2 * unvisited g s + s.queue.length
decreasing_by
  have := unvisited_visit g current { s with queue }
  rw [_h, List.length_cons]
  simp only [unvisited] at this ⊢
  omega

def search (g : NeighborLists α) (root : α) : State α :=
  search.go g { visited := [root], predecessor := ∅, queue := [root] }

section Visit

variable {current a : α} {s : State α}

theorem mem_visited_enqueue : a ∈ (enqueue current s b).visited ↔ a = b ∨ a ∈ s.visited := by
  unfold enqueue
  split
  . next hb =>
    constructor
    . exact .inr
    . rintro (rfl | ha)
      . exact hb
      . exact ha
  . simp

theorem mem_visited_foldl {as : List α}
    : a ∈ (as.foldl (enqueue current) s).visited ↔ a ∈ as ∨ a ∈ s.visited := by
  induction as generalizing s with
  | nil => simp
  | cons b as ih =>
    rw [List.foldl_cons, ih, mem_visited_enqueue, List.mem_cons]
    grind

end Visit

/--
What holds while the neighbors of `current` are looked at: The queue is sorted by the distance to
the root, with at most one step between its ends, and all neighbors of the nodes that are no longer
in the queue have been visited.
-/
structure Searching (g : NeighborLists α) (G : SimpleGraph α) (root : α) (current : Option α)
    (s : State α) : Prop where
  root_visited : root ∈ s.visited
  reachable : ∀ {a}, a ∈ s.visited → G.Reachable root a
  queue_visited : ∀ {a}, a ∈ s.queue → a ∈ s.visited
  closed : ∀ {a b}, a ∈ s.visited → a ∉ s.queue → some a ≠ current → G.Adj a b → b ∈ s.visited
  sorted : s.queue.Pairwise (fun a b =>
    G.dist root a ≤ G.dist root b ∧ G.dist root b ≤ G.dist root a + 1)
  mem_predecessor : ∀ {a}, a ∈ s.predecessor ↔ a ∈ s.visited ∧ a ≠ root
  predecessor : ∀ {a b}, s.predecessor.lookup a = some b
    → G.Reachable root b ∧ G.Adj b a ∧ G.dist root a = G.dist root b + 1

namespace Searching

variable {g : NeighborLists α} {G : SimpleGraph α} {root : α} {s : State α}

theorem initial (g : NeighborLists α) (G : SimpleGraph α) (root : α)
    : Searching g G root none { visited := [root], predecessor := ∅, queue := [root] } where
  root_visited := by simp
  reachable := by
    intro a ha
    rw [List.mem_singleton.mp ha]
  queue_visited := id
  closed ha hq := absurd ha hq
  sorted := List.pairwise_singleton _ _
  mem_predecessor := by simp
  predecessor h := by cases h

variable {queue : List α} {current : α}

theorem visited_of_le (h : Searching g G root none s) (hq : s.queue = current :: queue) {a : α}
    (ha : G.Reachable root a) (hle : G.dist root a ≤ G.dist root current)
    : a ∈ s.visited := by
  induction hn : G.dist root a using Nat.strong_induction_on generalizing a with
  | _ n ih =>
  by_cases hroot : a = root
  . rw [hroot]
    exact h.root_visited
  obtain ⟨b, hb, hadj, hlt⟩ := ha.exists_closer hroot
  have hvisited := ih _ (hn ▸ hlt) hb (by omega) rfl
  apply h.closed hvisited _ (by simp) hadj
  intro hmem
  have hsorted := h.sorted
  rw [hq] at hmem hsorted
  obtain rfl | hmem := List.mem_cons.mp hmem
  . omega
  . have := (List.pairwise_cons.mp hsorted).1 b hmem
    omega

structure Popped (G : SimpleGraph α) (root current : α) (s : State α) : Prop where
  reachable : G.Reachable root current
  queue_near : ∀ {a}, a ∈ s.queue
    → G.dist root current ≤ G.dist root a ∧ G.dist root a ≤ G.dist root current + 1
  unvisited_far : ∀ {a}, G.Reachable root a → a ∉ s.visited
    → G.dist root current < G.dist root a

theorem pop (h : Searching g G root none s) (hq : s.queue = current :: queue)
    : Searching g G root (some current) { s with queue }
      ∧ Popped G root current { s with queue } := by
  have hsorted := h.sorted
  rw [hq, List.pairwise_cons] at hsorted
  constructor
  . constructor
    . exact h.root_visited
    . exact h.reachable
    . intro a ha
      apply h.queue_visited
      rw [hq]
      exact List.mem_cons_of_mem _ ha
    . intro a b ha hnot hne hadj
      apply h.closed ha _ (by simp) hadj
      rw [hq, List.mem_cons, not_or]
      exact ⟨fun heq => hne (congrArg some heq), hnot⟩
    . exact hsorted.2
    . exact h.mem_predecessor
    . exact h.predecessor
  . constructor
    . apply h.reachable
      apply h.queue_visited
      rw [hq]
      simp
    . exact fun ha => hsorted.1 _ ha
    . intro a ha hunvisited
      by_contra hle
      exact hunvisited (h.visited_of_le hq ha (by omega))

section

variable (h : Searching g G root (some current) s) (hpop : Popped G root current s)

include h hpop

theorem enqueue {a : α} (hadj : G.Adj current a)
    : Searching g G root (some current) (Bfs.enqueue current s a)
      ∧ Popped G root current (Bfs.enqueue current s a) := by
  unfold Bfs.enqueue
  split
  . exact ⟨h, hpop⟩
  next hnew =>
  have hreach : G.Reachable root a := hpop.reachable.trans hadj.reachable
  have hdist : G.dist root a = G.dist root current + 1 := by
    have hle := hpop.reachable.dist_le_of_adj hadj
    have hlt := hpop.unvisited_far hreach hnew
    omega
  constructor
  . constructor
    . exact List.mem_cons_of_mem _ h.root_visited
    . intro b hb
      obtain rfl | hb := List.mem_cons.mp hb
      . exact hreach
      . exact h.reachable hb
    . intro b hb
      obtain hb | hb := List.mem_append.mp hb
      . exact List.mem_cons_of_mem _ (h.queue_visited hb)
      . rw [List.mem_singleton.mp hb]
        simp
    . intro b c hb hnot hne hadj'
      simp only [List.mem_append, List.mem_singleton, not_or] at hnot
      apply List.mem_cons_of_mem
      exact h.closed ((List.mem_cons.mp hb).resolve_left hnot.2) hnot.1 hne hadj'
    . rw [List.pairwise_append]
      refine ⟨h.sorted, List.pairwise_singleton _ _, ?_⟩
      intro b hb c hc
      rw [List.mem_singleton.mp hc, hdist]
      have := hpop.queue_near hb
      omega
    . intro b
      rw [AList.mem_insert, h.mem_predecessor, List.mem_cons]
      grind
    intro b c hget
    by_cases hb : b = a
    . subst hb
      rw [AList.lookup_insert] at hget
      cases hget
      exact ⟨hpop.reachable, hadj, hdist⟩
    . rw [AList.lookup_insert_ne hb] at hget
      exact h.predecessor hget
  . constructor
    . exact hpop.reachable
    . intro b hb
      obtain hb | hb := List.mem_append.mp hb
      . exact hpop.queue_near hb
      . rw [List.mem_singleton.mp hb, hdist]
        omega
    . intro b hb hunvisited
      exact hpop.unvisited_far hb (fun hb => hunvisited (List.mem_cons_of_mem _ hb))

theorem foldl_enqueue {as : List α} (hadj : ∀ a ∈ as, G.Adj current a)
    : Searching g G root (some current) (as.foldl (Bfs.enqueue current) s) := by
  induction as generalizing s with
  | nil => exact h
  | cons a as ih =>
    obtain ⟨hnext, hpop'⟩ := h.enqueue hpop (hadj a (by simp))
    exact ih hnext hpop' (fun b hb => hadj b (by simp [hb]))

end

theorem visit (h : Searching g G root none s) (hq : s.queue = current :: queue)
    (hG : ∀ {a b}, b ∈ g.neighbors a ↔ G.Adj a b)
    : Searching g G root none (Bfs.visit g current { s with queue }) := by
  obtain ⟨hsearching, hpop⟩ := h.pop hq
  have hdone := hsearching.foldl_enqueue hpop (fun a => hG.mp)
  constructor
  . exact hdone.root_visited
  . exact hdone.reachable
  . exact hdone.queue_visited
  . intro a b ha hnot _ hadj
    by_cases hcur : a = current
    . subst hcur
      exact mem_visited_foldl.mpr (.inl (hG.mpr hadj))
    . exact hdone.closed ha hnot (fun heq => hcur (Option.some.inj heq)) hadj
  . exact hdone.sorted
  . exact hdone.mem_predecessor
  . exact hdone.predecessor

theorem go (h : Searching g G root none s) (hG : ∀ {a b}, b ∈ g.neighbors a ↔ G.Adj a b)
    : Searching g G root none (search.go g s) ∧ (search.go g s).queue = [] := by
  fun_induction search.go g s with
  | case1 s hq => exact ⟨h, hq⟩
  | case2 s current queue hq ih => exact ih (h.visit hq hG)

end Searching

variable {g : NeighborLists α} {G : SimpleGraph α} {root : α}
  (hG : ∀ {a b}, b ∈ g.neighbors a ↔ G.Adj a b)

include hG

theorem mem_predecessor_search {a : α}
    : a ∈ (search g root).predecessor ↔ G.Reachable root a ∧ a ≠ root := by
  obtain ⟨h, hq⟩ := (Searching.initial g G root).go hG
  have hvisited : ∀ {b}, G.Reachable root b → b ∈ (search g root).visited := by
    intro b hb
    rw [SimpleGraph.reachable_iff_reflTransGen] at hb
    induction hb with
    | refl => exact h.root_visited
    | tail _ hadj ih => exact h.closed ih (by simp [hq]) (by simp) hadj
  exact h.mem_predecessor.trans (and_congr_left fun _ => ⟨h.reachable, hvisited⟩)

theorem predecessor_search {a b : α} (hget : (search g root).predecessor.lookup a = some b)
    : G.Reachable root b ∧ G.Adj b a ∧ G.dist root a = G.dist root b + 1 :=
  ((Searching.initial g G root).go hG).1.predecessor hget

end Bfs
