import ClusterView.Plugin.Declaration
import Mathlib.Data.Option.Basic

/-!
# Texts that name types

The text of a type is `version/Kind` in the core group and `group/version/Kind` in any other, and
none of its parts is empty or has a slash (`GroupVersionKind.IsNamedBy`). Reading a text looks at
its first and at its last slash only, so it also takes texts that have more slashes, or nothing
between two of them, or nothing before the first one (`GroupVersionKind.IsMisreadFrom`). These are
all the texts that are read as a type (`GroupVersionKind.ofText?_reads`), and a plugin that is
declared for one of them adds to the pages of whatever it was read as.
-/

namespace ClusterView

/-- The group and the version stand on both sides of the first slash; without a slash there is only
a version. -/
theorem splitApiVersion_eq_iff {s group version : String} :
    splitApiVersion s = (group, version) ↔
      s = group ++ "/" ++ version ∧ '/' ∉ group.toList ∨
        group = "" ∧ s = version ∧ '/' ∉ version.toList := by
  unfold splitApiVersion
  cases hsplit : Text.splitFirst? '/' s with
  | none =>
    have hslash : '/' ∉ s.toList := Text.splitFirst?_eq_none_iff.1 hsplit
    have hcut : s ≠ group ++ "/" ++ version := by
      rintro rfl
      simp at hslash
    simp only [Option.getD_none, Prod.mk.injEq, hcut, false_and, false_or]
    constructor
    · rintro ⟨rfl, rfl⟩
      exact ⟨rfl, rfl, hslash⟩
    · rintro ⟨rfl, rfl, -⟩
      exact ⟨rfl, rfl⟩
  | some parts =>
    obtain ⟨rfl, hgroup⟩ := Text.splitFirst?_slash_iff.1 hsplit
    rw [Option.getD_some]
    constructor
    · rintro rfl
      exact .inl ⟨rfl, hgroup⟩
    · rintro (⟨hs, hslash⟩ | ⟨-, rfl, hslash⟩)
      · exact Option.some.inj (hsplit.symm.trans (Text.splitFirst?_slash_iff.2 ⟨hs, hslash⟩))
      · simp at hslash

namespace GroupVersionKind

/-! ## Texts and types -/

/-- Whether a text is a part of the text of a type: it is not empty and has no slash. -/
def IsPart (s : String) : Prop := s ≠ "" ∧ '/' ∉ s.toList

instance (s : String) : Decidable (IsPart s) := inferInstanceAs (Decidable (_ ∧ _))

/-- Whether a type is written as a text: `version/Kind` in the core group and `group/version/Kind`
in any other. -/
inductive IsNamedBy : GroupVersionKind → String → Prop
  | core {version kind : String} (hversion : IsPart version) (hkind : IsPart kind) :
      IsNamedBy ⟨"", version, kind⟩ (version ++ "/" ++ kind)
  | grouped {group version kind : String} (hgroup : IsPart group) (hversion : IsPart version)
      (hkind : IsPart kind) :
      IsNamedBy ⟨group, version, kind⟩ (group ++ "/" ++ version ++ "/" ++ kind)

/-- Whether a type is read from a text that is written for none. The text is cut at its first and at
its last slash, but its group or its version is empty, or there are slashes in its version. -/
structure IsMisreadFrom (g : GroupVersionKind) (s : String) : Prop where
  text : s = g.group ++ "/" ++ g.version ++ "/" ++ g.kind
  group : '/' ∉ g.group.toList
  kind : IsPart g.kind
  not_parts : ¬ (IsPart g.group ∧ IsPart g.version)

variable {s : String} {g : GroupVersionKind}

theorem isNamedBy_iff : g.IsNamedBy s ↔
    IsPart g.version ∧ IsPart g.kind ∧ (g.group = "" ∧ s = g.version ++ "/" ++ g.kind ∨
      IsPart g.group ∧ s = g.group ++ "/" ++ g.version ++ "/" ++ g.kind) := by
  constructor
  · rintro (⟨hversion, hkind⟩ | ⟨hgroup, hversion, hkind⟩)
    · exact ⟨hversion, hkind, .inl ⟨rfl, rfl⟩⟩
    · exact ⟨hversion, hkind, .inr ⟨hgroup, rfl⟩⟩
  · obtain ⟨group, version, kind⟩ := g
    rintro ⟨hversion, hkind, ⟨rfl, rfl⟩ | ⟨hgroup, rfl⟩⟩
    · exact .core hversion hkind
    · exact .grouped hgroup hversion hkind

/-! ## Reading texts -/

/-- The kind stands behind the last slash, and what stands before it is an API version. -/
theorem ofText?_eq_some_iff : ofText? s = some g ↔ ∃ apiVersion,
    s = apiVersion ++ "/" ++ g.kind ∧ apiVersion ≠ "" ∧ IsPart g.kind ∧
      splitApiVersion apiVersion = (g.group, g.version) := by
  obtain ⟨group, version, kind⟩ := g
  simp only [ofText?, Option.bind_eq_bind, Option.bind_eq_some_iff, Prod.exists,
    Option.guard_eq_some', Text.splitLast?_slash_iff, ofApiVersion, Option.some.injEq, mk.injEq]
  constructor
  · rintro ⟨apiVersion, kind, ⟨hs, hslash⟩, _, ⟨hversion, hkind⟩, rfl, rfl, rfl⟩
    exact ⟨apiVersion, hs, hversion, ⟨hkind, hslash⟩, rfl⟩
  · rintro ⟨apiVersion, hs, hversion, ⟨hkind, hslash⟩, hsplit⟩
    exact ⟨apiVersion, kind, ⟨hs, hslash⟩, (), ⟨hversion, hkind⟩, congrArg Prod.fst hsplit,
      congrArg Prod.snd hsplit, rfl⟩

theorem ofText?_eq_some_iff_isNamedBy :
    ofText? s = some g ↔ g.IsNamedBy s ∨ g.IsMisreadFrom s := by
  rw [ofText?_eq_some_iff]
  constructor
  · rintro ⟨apiVersion, rfl, hversion, hkind, hsplit⟩
    rcases splitApiVersion_eq_iff.1 hsplit with ⟨rfl, hgroup⟩ | ⟨hcore, rfl, hslash⟩
    · by_cases hparts : IsPart g.group ∧ IsPart g.version
      · exact .inl (isNamedBy_iff.2 ⟨hparts.2, hkind, .inr ⟨hparts.1, rfl⟩⟩)
      · exact .inr ⟨rfl, hgroup, hkind, hparts⟩
    · exact .inl (isNamedBy_iff.2 ⟨⟨hversion, hslash⟩, hkind, .inl ⟨hcore, rfl⟩⟩)
  · rintro (hnamed | ⟨rfl, hgroup, hkind, -⟩)
    · obtain ⟨hversion, hkind, ⟨hcore, rfl⟩ | ⟨hgroup, rfl⟩⟩ := isNamedBy_iff.1 hnamed
      · exact ⟨_, rfl, hversion.1, hkind, splitApiVersion_eq_iff.2 (.inr ⟨hcore, rfl, hversion.2⟩)⟩
      · exact ⟨_, rfl, by simp, hkind, splitApiVersion_eq_iff.2 (.inl ⟨rfl, hgroup.2⟩)⟩
    · exact ⟨_, rfl, by simp, hkind, splitApiVersion_eq_iff.2 (.inl ⟨rfl, hgroup⟩)⟩

/-- A text that is misread is the text of no type at all. -/
theorem IsMisreadFrom.not_isNamedBy (h : g.IsMisreadFrom s) (g' : GroupVersionKind) :
    ¬ g'.IsNamedBy s := by
  intro hnamed
  -- Both would be what the text is read as, so there is one type only.
  obtain rfl : g = g' := Option.some.inj
    ((ofText?_eq_some_iff_isNamedBy.2 (.inr h)).symm.trans
      (ofText?_eq_some_iff_isNamedBy.2 (.inl hnamed)))
  obtain ⟨hversion, -, ⟨-, hs⟩ | ⟨hgroup, -⟩⟩ := isNamedBy_iff.1 hnamed
  · have hlength := congrArg String.length (h.text.symm.trans hs)
    simp only [String.length_append] at hlength
    simp at hlength
  · exact h.not_parts ⟨hgroup, hversion⟩

/-- A declaration is stored as it would be without a text that is read as no type. -/
theorem toPlugin_of_ofText?_eq_none (h : ofText? s = none) (d : PluginDeclaration)
    (earlier later : List String) :
    ({ d with printer := earlier ++ s :: later } : PluginDeclaration).toPlugin =
      ({ d with printer := earlier ++ later } : PluginDeclaration).toPlugin := by
  simp only [PluginDeclaration.toPlugin, PluginDeclaration.metadata, List.filterMap_append,
    List.filterMap_cons_none h]

/-- **Which texts are read as types.** A text is read as the type that it is written for, and if it
is written for none, perhaps as one that it is misread for; only where it is not misread does
reading say what is written. Of a declaration, a text that is neither is passed over. -/
theorem ofText?_reads (s : String) :
    (∀ g, ofText? s = some g ↔ g.IsNamedBy s ∨ g.IsMisreadFrom s) ∧
      ((∀ g, ofText? s = some g ↔ g.IsNamedBy s) ↔ ∀ g : GroupVersionKind, ¬ g.IsMisreadFrom s) ∧
      ((∀ g : GroupVersionKind, ¬ g.IsNamedBy s ∧ ¬ g.IsMisreadFrom s) →
        ∀ (d : PluginDeclaration) (earlier later : List String),
          ({ d with printer := earlier ++ s :: later } : PluginDeclaration).toPlugin =
            ({ d with printer := earlier ++ later } : PluginDeclaration).toPlugin) := by
  refine ⟨fun g => ofText?_eq_some_iff_isNamedBy, ⟨fun h g hmisread => ?_, fun h g => ?_⟩,
    fun h => toPlugin_of_ofText?_eq_none (Option.eq_none_iff_forall_ne_some.2 fun g hg => ?_)⟩
  · exact hmisread.not_isNamedBy g ((h g).1 (ofText?_eq_some_iff_isNamedBy.2 (.inr hmisread)))
  · rw [ofText?_eq_some_iff_isNamedBy, or_iff_left (h g)]
  · exact (ofText?_eq_some_iff_isNamedBy.1 hg).elim (h g).1 (h g).2

/-- A slash in front, nothing between two slashes, and a slash too many: what is read is no type
that the text is written for, and a plugin is declared for it all the same. -/
theorem ofText?_strayTexts :
    let declared (s : String) := ({ name := "scale", printer := [s] } : PluginDeclaration).metadata
    ((∀ g : GroupVersionKind, ¬ g.IsNamedBy "/v1/Pod") ∧
      ofText? "/v1/Pod" = some ⟨"", "v1", "Pod"⟩) ∧
    ((∀ g : GroupVersionKind, ¬ g.IsNamedBy "apps//Deployment") ∧
      ofText? "apps//Deployment" = some ⟨"apps", "", "Deployment"⟩) ∧
    (∀ g : GroupVersionKind, ¬ g.IsNamedBy "apps/v1/beta1/Deployment") ∧
      ofText? "apps/v1/beta1/Deployment" = some ⟨"apps", "v1/beta1", "Deployment"⟩ ∧
      (declared "apps/v1/beta1/Deployment").capabilities.printerConfig =
        [⟨"apps", "v1/beta1", "Deployment"⟩] := by
  have hcore : IsMisreadFrom ⟨"", "v1", "Pod"⟩ "/v1/Pod" := ⟨rfl, by decide, by decide, by decide⟩
  have hgap : IsMisreadFrom ⟨"apps", "", "Deployment"⟩ "apps//Deployment" :=
    ⟨rfl, by decide, by decide, by decide⟩
  have hlong : IsMisreadFrom ⟨"apps", "v1/beta1", "Deployment"⟩ "apps/v1/beta1/Deployment" :=
    ⟨rfl, by decide, by decide, by decide⟩
  exact ⟨⟨hcore.not_isNamedBy, rfl⟩, ⟨hgap.not_isNamedBy, rfl⟩, hlong.not_isNamedBy, rfl, rfl⟩

end GroupVersionKind

end ClusterView
