import Kerber.Lib.SuffixPath
import Kerber.Types.Transited

/-!
# The hierarchical walk between realms

A realm is a list of labels with dots between them, and the realm above it has its first label off.
`hierarchicalWalkRealms_eq`: the walk is the path between the label lists, joined up again; so it goes
from one realm to the other, meets none twice, and each step takes or drops one leading label but for
the jump between two tops (`hierarchical_walk_path`).
-/

namespace Kerber.Transited

open List

variable {client server : Str} {ls : List Str}

def labels (realm : Str) : List Str :=
  realm.splitOn dot

/-- The realm with these labels. -/
def ofLabels (ls : List Str) : Str :=
  [dot].intercalate ls

/-- `upper` is `realm` without its first label. -/
def Above (upper realm : Str) : Prop :=
  ∃ label, labels realm = label :: labels upper

/-- The two realms have no label in common at the end, and `a` and `b` are their tops. -/
def TopJump (client server a b : Str) : Prop :=
  (labels client).getLast? ≠ (labels server).getLast?
    ∧ (labels client).getLast? = some a ∧ (labels server).getLast? = some b

/-! ### Labels -/

theorem labels_ne_nil (realm : Str) : labels realm ≠ [] :=
  splitOn_ne_nil dot realm

theorem ofLabels_labels (realm : Str) : ofLabels (labels realm) = realm :=
  intercalate_splitOn dot

theorem dot_notMem_of_mem_labels {realm label : Str} (h : label ∈ labels realm) : dot ∉ label := by
  induction realm generalizing label with
  | nil =>
    obtain rfl := mem_singleton.mp h
    exact not_mem_nil
  | cons b realm ih =>
    rw [labels, splitOn_cons_eq_if_modifyHead] at h
    split at h
    · rcases mem_cons.mp h with rfl | h
      · exact not_mem_nil
      · exact ih h
    · rename_i hb
      -- the first label grows by a byte that is not a dot
      cases hl : realm.splitOn dot with
      | nil => exact absurd hl (splitOn_ne_nil dot realm)
      | cons l ls =>
        rw [hl, modifyHead_cons] at h
        rcases mem_cons.mp h with rfl | h
        · rw [mem_cons, not_or]
          refine ⟨fun hdot => hb ?_, ih ?_⟩
          · rw [hdot]
            exact beq_self_eq_true b
          · rw [labels, hl]
            exact mem_cons_self
        · refine ih ?_
          rw [labels, hl]
          exact mem_cons_of_mem _ h

def IsLabels (ls : List Str) : Prop :=
  ls ≠ [] ∧ ∀ l ∈ ls, dot ∉ l

theorem labels_ofLabels (h : IsLabels ls) : labels (ofLabels ls) = ls :=
  splitOn_intercalate dot h.2 h.1

theorem isLabels_of_mem_path (h : ls ∈ suffixPath (labels client) (labels server)) :
    IsLabels ls := by
  obtain ⟨hne, hsuffix⟩ := mem_suffixPath h
  refine ⟨hne, fun l hl => ?_⟩
  rcases hsuffix with hsuffix | hsuffix
  · exact dot_notMem_of_mem_labels (hsuffix.subset hl)
  · exact dot_notMem_of_mem_labels (hsuffix.subset hl)

/-! ### The walk -/

theorem take_realmTails (parts : List Str) {n : Nat} (hn : n ≤ parts.length) :
    (realmTails parts).take n = (parts.tails.take n).map ofLabels := by
  induction parts generalizing n with
  | nil =>
    obtain rfl := Nat.le_zero.mp hn
    rfl
  | cons x parts ih =>
    cases n with
    | zero => rfl
    | succ n =>
      have hcons : realmTails (x :: parts) = ofLabels (x :: parts) :: realmTails parts := by
        rw [realmTails, tails_cons, filter_cons_of_pos (by simp), map_cons]
        rfl
      rw [hcons, take_succ_cons, ih (Nat.le_of_succ_le_succ hn), tails_cons,
        take_succ_cons, map_cons]

/-- **The walk is the path between the label lists.** -/
theorem hierarchicalWalkRealms_eq (hne : client ≠ server)
    (hclient : client.length < maxTransitRaw) (hserver : server.length < maxTransitRaw) :
    hierarchicalWalkRealms client server
      = (suffixPath (labels client) (labels server)).map ofLabels := by
  have hshort : ¬ (client.length ≥ maxTransitRaw ∨ server.length ≥ maxTransitRaw) := by omega
  unfold hierarchicalWalkRealms
  rw [if_neg hshort, if_neg hne]
  show (realmTails (labels client)).take (climb (labels client) (labels server))
    ++ ((realmTails (labels server)).take (descent (labels client) (labels server))).reverse = _
  rw [take_realmTails _ climb_le, take_realmTails _ descent_le, suffixPath, map_append,
    map_reverse]

theorem topJump_of_step {a b : List Str}
    (hcommon : commonSuffixLength (labels client) (labels server) = 0)
    (ha : a = (labels client).drop ((labels client).length - 1))
    (hb : b = (labels server).drop ((labels server).length - 1)) :
    TopJump client server (ofLabels a) (ofLabels b) := by
  have hc := labels_ne_nil client
  have hs := labels_ne_nil server
  rw [drop_length_sub_one hc] at ha
  rw [drop_length_sub_one hs] at hb
  subst ha hb
  have hone : ∀ l : Str, ofLabels [l] = l := fun l => intercalate_singleton
  rw [hone, hone]
  refine ⟨fun heq => ?_, getLast?_eq_some_getLast hc, getLast?_eq_some_getLast hs⟩
  have hmax := (commonSuffixLength_spec (labels client) (labels server)).2.2.2 1
    (length_pos_iff.mpr hc) (length_pos_iff.mpr hs)
  rw [drop_length_sub_one hc, drop_length_sub_one hs] at hmax
  rw [getLast?_eq_some_getLast hc, getLast?_eq_some_getLast hs, Option.some.injEq] at heq
  have := hmax (by rw [heq])
  omega

/-- **The hierarchical walk.**  Between two different realms below the length cap it starts at the
client's realm and ends at the server's, no realm is in it twice, and each realm is the one before
it with one leading label off or on, but for the jump between the tops of realms that end in different
labels. -/
theorem hierarchical_walk_path {client server : Str} (hne : client ≠ server)
    (hclient : client.length < maxTransitRaw) (hserver : server.length < maxTransitRaw) :
    let path := hierarchicalWalkRealms client server
    path.head? = some client ∧ path.getLast? = some server ∧ path.Nodup
      ∧ path.IsChain fun a b => Above b a ∨ Above a b ∨ TopJump client server a b := by
  intro path
  have hpath : path = (suffixPath (labels client) (labels server)).map ofLabels :=
    hierarchicalWalkRealms_eq hne hclient hserver
  rw [hpath]
  have hc := labels_ne_nil client
  refine ⟨?_, ?_, ?_, ?_⟩
  · rw [List.head?_map, head?_suffixPath hc, Option.map_some, ofLabels_labels]
  · rw [List.getLast?_map, getLast?_suffixPath hc (labels_ne_nil server), Option.map_some,
      ofLabels_labels]
  · refine nodup_suffixPath.map_on fun a ha b hb heq => ?_
    rw [← labels_ofLabels (isLabels_of_mem_path ha), heq, labels_ofLabels (isLabels_of_mem_path hb)]
  · rw [List.isChain_map]
    refine (isChain_suffixPath hc).imp_of_mem_imp fun a b ha hb hstep => ?_
    have hla := labels_ofLabels (isLabels_of_mem_path ha)
    have hlb := labels_ofLabels (isLabels_of_mem_path hb)
    rcases hstep with ⟨x, hx⟩ | ⟨x, hx⟩ | ⟨hcommon, ha, hb⟩
    · exact .inl ⟨x, by rw [hla, hlb, hx]⟩
    · exact .inr (.inl ⟨x, by rw [hla, hlb, hx]⟩)
    · exact .inr (.inr (topJump_of_step hcommon ha hb))

/-- Up to the realm that both are below, and down again. -/
theorem hierarchical_walk_cousins :
    let path := hierarchicalWalkRealms (str "A.B.COM") (str "C.COM")
    path = [str "A.B.COM", str "B.COM", str "COM", str "C.COM"]
      ∧ path.head? = some (str "A.B.COM") ∧ path.getLast? = some (str "C.COM") ∧ path.Nodup
      ∧ path.IsChain fun a b => Above b a ∨ Above a b ∨ TopJump (str "A.B.COM") (str "C.COM") a b :=
  ⟨by decide +kernel, hierarchical_walk_path (by decide +kernel) (by decide +kernel)
    (by decide +kernel)⟩

end Kerber.Transited
