/-
Module: StaticSite.Proofs.Bundling.Naming
Purpose: When bundles have URLs of their own.  A bundle is named after the owners of its
  scripts, so two of them are told apart exactly when the owners' names do it.
Trusted boundary: none
Main exports:
  NamesTellGroupsApart, srcOf_injective, srcs_nodup_iff, srcs_repeat_of_shared_owner
-/
import StaticSite.Proofs.Bundling.Extraction

namespace StaticSite.Bundling

/-- Scripts that are used on different pages are extracted to bundles of different names. -/
def NamesTellGroupsApart (pages : List Page) (components : List Component)
    (minPageUsage : Int) : Prop :=
  ∀ first ∈ extracted pages components minPageUsage,
    ∀ second ∈ extracted pages components minPageUsage,
      groupName pages components minPageUsage first =
        groupName pages components minPageUsage second →
      usageOf pages first = usageOf pages second

instance (pages : List Page) (components : List Component) (minPageUsage : Int) :
    Decidable (NamesTellGroupsApart pages components minPageUsage) :=
  inferInstanceAs
    (Decidable (∀ first ∈ extracted pages components minPageUsage,
      ∀ second ∈ extracted pages components minPageUsage,
        groupName pages components minPageUsage first =
          groupName pages components minPageUsage second →
        usageOf pages first = usageOf pages second))

/-- Bundles of different names get different URLs. -/
theorem srcOf_injective (srcStart : String) : Function.Injective (Bundle.srcOf srcStart) := by
  intro first second same
  have characters : srcStart.toList ++ first.toList ++ ".js".toList =
      srcStart.toList ++ second.toList ++ ".js".toList := by
    simpa [Bundle.srcOf] using congrArg String.toList same
  have names : first.toList = second.toList :=
    List.append_cancel_left (List.append_cancel_right characters)
  exact String.ext names

variable (pages : List Page) (components : List Component) {minPageUsage : Int}
  (srcStart : String)

/-- The URLs of the bundles of all groups differ when the names tell the groups apart. -/
theorem groupBundle_srcs_nodup_iff (minPageUsage : Int) :
    (((groups pages components minPageUsage).map (groupBundle components srcStart)).map
        (·.src)).Nodup ↔ NamesTellGroupsApart pages components minPageUsage := by
  have srcs : ((groups pages components minPageUsage).map
        (groupBundle components srcStart)).map (·.src) =
      (((extracted pages components minPageUsage).map (usageOf pages)).eraseDups.map fun usage =>
        some (Bundle.srcOf srcStart (openBundle components
          (sharing pages (extracted pages components minPageUsage) usage)).name)) := by
    simp only [groups, List.map_map]
    rfl
  rw [srcs, List.nodup_map_iff_inj_on (nodup_eraseDups _)]
  constructor
  · intro injective first firstMember second secondMember sameName
    have known : ∀ signature ∈ extracted pages components minPageUsage,
        usageOf pages signature ∈
          ((extracted pages components minPageUsage).map (usageOf pages)).eraseDups :=
      fun signature member => List.mem_eraseDups.mpr (List.mem_map_of_mem member)
    apply injective _ (known first firstMember) _ (known second secondMember)
    exact congrArg (fun name => some (Bundle.srcOf srcStart name)) sameName
  · intro apart usage usageMember other otherMember sameSrc
    obtain ⟨first, firstMember, rfl⟩ := List.mem_map.mp (List.mem_eraseDups.mp usageMember)
    obtain ⟨second, secondMember, rfl⟩ := List.mem_map.mp (List.mem_eraseDups.mp otherMember)
    exact apart first firstMember second secondMember
      (srcOf_injective srcStart (Option.some.inj sameSrc))

/-- If the names tell the groups apart, the URL of a script is that of no other bundle. -/
theorem eq_groupBundle_of_src {pages : List Page} {components : List Component}
    {minPageUsage : Int} {srcStart : String}
    (apart : NamesTellGroupsApart pages components minPageUsage) {signature : Signature}
    (member : signature ∈ extracted pages components minPageUsage) {bundle : Bundle}
    (isBundle : bundle ∈
      (groups pages components minPageUsage).map (groupBundle components srcStart))
    (sameSrc : bundle.src = some (groupSrc pages components minPageUsage srcStart signature)) :
    bundle = groupBundle components srcStart
      (groupOf pages components minPageUsage signature) := by
  obtain ⟨group, isGroup, rfl⟩ := List.mem_map.mp isBundle
  obtain ⟨other, otherMember, rfl⟩ := exists_groupOf isGroup
  have sameName : groupName pages components minPageUsage other =
      groupName pages components minPageUsage signature :=
    srcOf_injective srcStart (Option.some.inj sameSrc)
  rw [groupOf_congr (apart other otherMember signature member sameName)]

/-- The URLs of bundles are pairwise different exactly when the names of the bundles
tell all groups of scripts apart; then the file at the URL of an extracted script is
the bundle of its own group. -/
theorem srcs_nodup_iff (enough : 1 ≤ minPageUsage) :
    ∃ result, extract pages components minPageUsage srcStart = .ok result ∧
      ((result.bundles.map (·.src)).Nodup ↔
        NamesTellGroupsApart pages components minPageUsage) ∧
      (NamesTellGroupsApart pages components minPageUsage →
        ∀ signature ∈ extracted pages components minPageUsage, ∀ bundle ∈ result.bundles,
          bundle.src = some (groupSrc pages components minPageUsage srcStart signature) →
            bundle = groupBundle components srcStart
              (groupOf pages components minPageUsage signature)) := by
  refine ⟨_, extract_eq pages components srcStart enough, ?_, ?_⟩
  · exact groupBundle_srcs_nodup_iff pages components srcStart minPageUsage
  · intro apart signature member bundle isBundle sameSrc
    exact eq_groupBundle_of_src apart member isBundle sameSrc

/-- The bundles of the small site have URLs of their own. -/
theorem srcs_nodup_of_sample :
    (1 : Int) ≤ 2 ∧ NamesTellGroupsApart samplePages sampleComponents 2 ∧
      ∃ result, extract samplePages sampleComponents 2 "/scripts/" = .ok result ∧
        (result.bundles.map (·.src)).Nodup := by
  have apart : NamesTellGroupsApart samplePages sampleComponents 2 := by decide +kernel
  obtain ⟨result, passed, exactly, -⟩ :=
    srcs_nodup_iff samplePages sampleComponents "/scripts/" (by decide : (1 : Int) ≤ 2)
  exact ⟨by decide, apart, result, passed, exactly.mpr apart⟩

/-- Two scripts of one owner that are used on different pages go to bundles of one URL:
without the third component the small site loses the script that all of its pages use. -/
theorem srcs_repeat_of_shared_owner :
    ∃ result,
      extract
          [ ⟨"a.html", [plainScript "shared()"]⟩,
            ⟨"b.html", [plainScript "shared()", plainScript "own()"]⟩,
            ⟨"c.html", [plainScript "shared()", plainScript "own()"]⟩ ]
          [ scriptsComponent "x-first" ["shared()"],
            scriptsComponent "x-second" ["shared()", "own()"] ]
          2 "/scripts/" = .ok result ∧
      result.bundles.map (·.code) = ["shared()", "own()"] ∧
      result.bundles.map (·.src) = [some "/scripts/x-second.js", some "/scripts/x-second.js"] ∧
      ¬ (result.bundles.map (·.src)).Nodup := by
  refine ⟨_, extract_eq _ _ _ (by decide), ?_⟩
  decide +kernel

end StaticSite.Bundling
