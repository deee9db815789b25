import AccessStream.Proofs.Files.Path
import AccessStream.Settings.Basic

/-!
# Settings against one base after the other

Resolving against one base after the other comes to resolving once, against the bases joined with
the last one outermost (`resolveAll_eq_resolve`). All that is used of paths is that joining is
associative and that an absolute path is not moved.
-/

namespace AccessStream.Settings

/-- Settings that are resolved against one base after the other. -/
def resolveAll (settings : Settings) (bases : List String) : Settings :=
  bases.foldl (fun settings base => settings.resolve base) settings

section Resolution

variable (settings : Settings)

/-- Only the path of the policy depends on the bases. -/
theorem resolveAll_eq (bases : List String) :
    settings.resolveAll bases =
      { settings with
        policyPath := settings.policyPath.map fun path =>
          bases.foldl (fun path base => Path.join base path) path } := by
  induction bases generalizing settings with
  | nil => simp [resolveAll]
  | cons base bases ih =>
    have step : settings.resolveAll (base :: bases) = (settings.resolve base).resolveAll bases :=
      rfl
    rw [step, ih, resolve, Option.map_map]
    rfl

theorem resolveAll_append (bases later : List String) :
    settings.resolveAll (bases ++ later) = (settings.resolveAll bases).resolveAll later :=
  List.foldl_append

theorem resolveAll_eq_resolve_joinAll (bases : List String) :
    settings.resolveAll bases = settings.resolve (Path.joinAll bases.reverse) := by
  simp only [resolveAll_eq, Path.foldl_join, resolve]

theorem policyPath_resolveAll {path : String} (set : settings.policyPath = some path)
    (bases : List String) :
    (settings.resolveAll bases).policyPath =
      some (Path.join (Path.joinAll bases.reverse) path) := by
  rw [resolveAll_eq_resolve_joinAll, resolve, set, Option.map_some]

/-- An absolute path stays as it is. -/
theorem resolveAll_of_isAbsolute {path : String} (set : settings.policyPath = some path)
    (absolute : Path.isAbsolute path = true) (bases : List String) :
    settings.resolveAll bases = settings := by
  rw [resolveAll_eq_resolve_joinAll, resolve, set, Option.map_some,
    Path.join_of_isAbsolute absolute, ← set]

/-- The path is absolute after some bases if it was absolute, or if one of them is. -/
theorem isAbsolute_join_joinAll_iff (bases : List String) (path : String) :
    Path.isAbsolute (Path.join (Path.joinAll bases.reverse) path) = true ↔
      Path.isAbsolute path = true ∨ ∃ base ∈ bases, Path.isAbsolute base = true := by
  rw [Path.isAbsolute_join, Bool.or_eq_true, Path.isAbsolute_joinAll_iff]
  simp only [List.mem_reverse]

end Resolution

/-- Resolving against one base after the other is resolving against the bases joined, the last one
outermost. A path that was absolute or met an absolute base is absolute, and no base after that
moves it; in particular an absolute base does nothing a second time. A path that is not set stays so,
and nothing else of the settings depends on the bases. -/
theorem resolveAll_eq_resolve (settings : Settings) :
    (∀ (first : String) (later : List String),
      settings.resolveAll (first :: later) =
          settings.resolve (Path.joinAll (first :: later).reverse) ∧
        Path.joinAll (first :: later).reverse =
          later.foldl (fun inner base => Path.join base inner) first) ∧
    (∀ (path : String) (bases : List String), settings.policyPath = some path →
      let anchored :=
        Path.isAbsolute path = true ∨ ∃ base ∈ bases, Path.isAbsolute base = true
      (∃ found, (settings.resolveAll bases).policyPath = some found ∧
        (Path.isAbsolute found = true ↔ anchored)) ∧
      (anchored → ∀ later, settings.resolveAll (bases ++ later) = settings.resolveAll bases)) ∧
    (∀ base, Path.isAbsolute base = true →
      (settings.resolve base).resolve base = settings.resolve base) ∧
    ∀ bases,
      ((settings.resolveAll bases).policyPath = none ↔ settings.policyPath = none) ∧
      (settings.resolveAll bases).flush = settings.flush ∧
      (settings.resolveAll bases).maxRecordBytes = settings.maxRecordBytes ∧
      (settings.resolveAll bases).logLevel = settings.logLevel := by
  have settled : ∀ (path : String) (bases later : List String), settings.policyPath = some path →
      (Path.isAbsolute path = true ∨ ∃ base ∈ bases, Path.isAbsolute base = true) →
      settings.resolveAll (bases ++ later) = settings.resolveAll bases := by
    intro path bases later set anchored
    rw [resolveAll_append]
    exact resolveAll_of_isAbsolute _ (settings.policyPath_resolveAll set bases)
      ((isAbsolute_join_joinAll_iff bases path).2 anchored) later
  refine ⟨fun first later => ⟨settings.resolveAll_eq_resolve_joinAll _, ?_⟩,
    fun path bases set => ⟨⟨_, settings.policyPath_resolveAll set bases,
      isAbsolute_join_joinAll_iff bases path⟩, fun anchored later =>
        settled path bases later set anchored⟩, fun base absolute => ?_, fun bases => ?_⟩
  · rw [Path.foldl_join, List.reverse_cons, Path.joinAll_concat]
  · cases set : settings.policyPath with
    | none =>
      rw [resolve, resolve, set]
      rfl
    | some path =>
      exact settled path [base] [base] set (.inr ⟨base, List.mem_singleton_self base, absolute⟩)
  · rw [resolveAll_eq]
    exact ⟨Option.map_eq_none_iff, rfl, rfl, rfl⟩

/-- A relative path with a base of each kind: one that ends with a slash, the empty one, an absolute
one and one more, which no longer counts. -/
theorem resolveAll_eq_resolve_of_mixed :
    let settings : Settings := { policyPath := some "p.toml" }
    (settings.resolveAll ["a/", "", "/srv", "b"] = settings.resolve "/srv/a/") ∧
      (settings.resolveAll (["a/", "", "/srv"] ++ ["b"]) =
        settings.resolveAll ["a/", "", "/srv"]) ∧
      (settings.resolve "/srv").resolve "/srv" = settings.resolve "/srv" ∧
      (settings.resolveAll ["a/", "", "/srv", "b"]).policyPath = some "/srv/a/p.toml" := by
  intro settings
  obtain ⟨joined, settled, again, -⟩ := resolveAll_eq_resolve settings
  have whole : Path.joinAll ["a/", "", "/srv", "b"].reverse = "/srv/a/" := by decide +kernel
  have once := (joined "a/" ["", "/srv", "b"]).1
  rw [whole] at once
  refine ⟨once, (settled "p.toml" ["a/", "", "/srv"] rfl).2 (.inr ⟨"/srv", ?_, ?_⟩) ["b"],
    again "/srv" ?_, ?_⟩
  · exact List.mem_of_getLast? rfl
  · decide +kernel
  · decide +kernel
  · rw [once]
    decide +kernel

end AccessStream.Settings
