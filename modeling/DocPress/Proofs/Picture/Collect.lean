import Mathlib.Data.List.Nodup
import DocPress.Picture.Address
import DocPress.Proofs.Document.Walk

/-! The addresses of the pictures in a tree, which are collected from a stack of trees. Main statement: they
are those that the walk through the tree comes by, each where it comes up first (`imageUrls_preorder`). -/

namespace DocPress.Node

mutual

/-- The nodes of a tree, each before those below it, from left to right. -/
def preorder : Node → List Node
  | mk k p cs => mk k p cs :: preorders cs

/-- The nodes of trees, one tree after the other. -/
def preorders : List Node → List Node
  | [] => []
  | n :: ns => n.preorder ++ preorders ns

end

/-- Where a picture lies, if it lies anywhere. -/
def pictureUrl? (n : Node) : Option String :=
  if n.kind = .image ∧ n.props.url ≠ "" then some n.props.url else none

/-- Where the pictures of trees lie, as the walk through the trees comes by them. -/
def pictureUrls (ns : List Node) : List String := (preorders ns).filterMap pictureUrl?

/-- What will have been seen once nothing is left on a stack: what has been, and then each address of the
trees that has not, where it comes up first. -/
def seenAtLast (seen : List String) (stack : List Node) : List String :=
  seen ++ ((pictureUrls stack).removeAll seen).eraseDups

variable {seen : List String} {n m : Node} {stack : List Node} {url : String}

theorem preorder_eq (n : Node) : n.preorder = n :: preorders n.children := by
  obtain ⟨k,p,cs⟩ := n
  rw [preorder,children]

theorem preorders_append (ns ms : List Node) : preorders (ns ++ ms) = preorders ns ++ preorders ms := by
  induction ns with
  | nil => rw [List.nil_append,preorders,List.nil_append]
  | cons n ns ih => rw [List.cons_append,preorders,preorders,ih,List.append_assoc]

theorem preorders_singleton (n : Node) : preorders [n] = n.preorder := by
  rw [preorders,preorders,List.append_nil]

theorem mem_preorders {ns : List Node} : m ∈ preorders ns ↔ ∃ n ∈ ns, m ∈ n.preorder := by
  induction ns with
  | nil => simp [preorders]
  | cons n ns ih => simp [preorders,ih]

/-- A node on top of a stack comes before its children, and these before the rest. -/
theorem pictureUrls_cons : pictureUrls (n :: stack) =
    n.pictureUrl?.toList ++ pictureUrls (n.children ++ stack) := by
  unfold pictureUrls
  rw [preorders,preorder_eq,preorders_append,List.cons_append,List.filterMap_cons]
  cases n.pictureUrl? <;> rfl

theorem pictureUrl?_eq_some : n.pictureUrl? = some url ↔ n.kind = .image ∧ url ≠ "" ∧ n.props.url = url := by
  unfold pictureUrl?
  rw [Option.ite_none_right_eq_some,Option.some.injEq,and_assoc]
  refine and_congr_right fun _ => and_congr_left fun same => ?_
  rw [same]

theorem see_of_new (found : n.pictureUrl? = some url) (new : url ∉ seen) : see seen n = seen ++ [url] := by
  obtain ⟨image,filled,rfl⟩ := pictureUrl?_eq_some.mp found
  simp [see,image,filled,new]

theorem see_of_known (found : n.pictureUrl? = some url) (known : url ∈ seen) : see seen n = seen := by
  obtain ⟨-,-,rfl⟩ := pictureUrl?_eq_some.mp found
  simp [see,known]

theorem see_of_none (nowhere : n.pictureUrl? = none) : see seen n = seen := by
  unfold pictureUrl? at nowhere
  simp_all [see]

theorem see_nodup (distinct : seen.Nodup) : (see seen n).Nodup := by
  cases found : n.pictureUrl? with
  | none => rwa [see_of_none found]
  | some url =>
    by_cases known : url ∈ seen
    · rwa [see_of_known found known]
    · rw [see_of_new found known]
      exact List.nodup_append.mpr ⟨distinct,List.nodup_singleton _,by grind⟩

/-- A turn changes what has been seen and what is left, but not what will have been seen at last. -/
theorem seenAtLast_turn : seenAtLast (see seen n) (n.children ++ stack) = seenAtLast seen (n :: stack) := by
  unfold seenAtLast
  rw [pictureUrls_cons]
  cases found : n.pictureUrl? with
  | none => rw [see_of_none found,Option.toList_none,List.nil_append]
  | some url =>
    rw [Option.toList_some,List.singleton_append]
    by_cases known : url ∈ seen
    · rw [see_of_known found known]
      simp [List.removeAll,known]
    · rw [see_of_new found known]
      have later : (pictureUrls (n.children ++ stack)).removeAll (seen ++ [url]) =
          ((pictureUrls (n.children ++ stack)).removeAll seen).filter fun other => ! other == url := by
        simp only [List.removeAll,List.filter_filter]
        refine List.filter_congr fun other _ => ?_
        simp
        grind
      have first : (url :: pictureUrls (n.children ++ stack)).removeAll seen =
          url :: (pictureUrls (n.children ++ stack)).removeAll seen := by
        simp [List.removeAll,known]
      rw [later,first,List.eraseDups_cons,List.append_assoc,List.singleton_append]

theorem collect_eq (seen : List String) (stack : List Node) : collect seen stack = seenAtLast seen stack := by
  fun_induction collect seen stack with
  | case1 seen => simp [seenAtLast,pictureUrls,preorders]
  | case2 seen n stack ih => rw [ih,seenAtLast_turn]

theorem collect_nodup (distinct : seen.Nodup) (stack : List Node) : (collect seen stack).Nodup := by
  fun_induction collect seen stack with
  | case1 seen => exact distinct
  | case2 seen n stack ih => exact ih (see_nodup distinct)

theorem imageUrls_nodup (n : Node) : n.imageUrls.Nodup := collect_nodup List.nodup_nil [n]

theorem imageUrls_eq (n : Node) : n.imageUrls = (n.preorder.filterMap pictureUrl?).eraseDups := by
  unfold imageUrls
  rw [collect_eq,seenAtLast,pictureUrls,preorders_singleton,List.nil_append]
  congr 1
  exact List.filter_eq_self.mpr fun _ _ => rfl

/-- The addresses of a tree are those of its pictures that have one, in the order in which the walk through
the tree comes by them first, and none of them twice. -/
theorem imageUrls_preorder (n : Node) :
    n.imageUrls = (n.preorder.filterMap pictureUrl?).eraseDups ∧ n.imageUrls.Nodup :=
  ⟨n.imageUrls_eq,n.imageUrls_nodup⟩

end DocPress.Node
