import ProtocolCtf.Basic

/- `params/version.go` of the go-ethereum tree the challenge ships: the version strings and
   `RuntimeInfo`. A Go string is its bytes here, so that `len` and `s[:8]` count bytes as Go's do;
   `goString` writes a literal. What `debug.ReadBuildInfo` returns, and the Go runtime's version,
   architecture and system, are arguments. -/

set_option autoImplicit false

namespace ProtocolCtf.Params

def goString (s : String) : Bytes := s.data.flatMap String.utf8EncodeChar

def versionMajor : Nat := 1
def versionMinor : Nat := 11
def versionPatch : Nat := 0
def versionMeta : Bytes := goString "unstable"
def ourPath : Bytes := goString "github.com/ethereum/go-ethereum"

def version : Bytes :=
  goString (toString versionMajor ++ "." ++ toString versionMinor ++ "." ++ toString versionPatch)

def versionWithMeta : Bytes :=
  if versionMeta ≠ [] then version ++ goString "-" ++ versionMeta else version

def archiveVersion (gitCommit : Bytes) : Bytes :=
  let vsn := if versionMeta ≠ goString "stable" then version ++ goString "-" ++ versionMeta else version
  if gitCommit.length ≥ 8 then vsn ++ goString "-" ++ gitCommit.take 8 else vsn

def versionWithCommit (gitCommit gitDate : Bytes) : Bytes :=
  let vsn := if gitCommit.length ≥ 8 then versionWithMeta ++ goString "-" ++ gitCommit.take 8 else versionWithMeta
  if versionMeta ≠ goString "stable" ∧ gitDate ≠ [] then vsn ++ goString "-" ++ gitDate else vsn

structure BuildSetting where
  key : Bytes
  value : Bytes
deriving DecidableEq, Repr

structure Module where
  path : Bytes
  version : Bytes
  replace : Option (Bytes × Bytes)
deriving DecidableEq, Repr

structure BuildInfo where
  path : Bytes
  main : Module
  deps : List Module
  settings : List BuildSetting
deriving DecidableEq, Repr

def findModule (info : BuildInfo) (path : Bytes) : Option Module :=
  if info.path = ourPath then some info.main else info.deps.find? fun mod => mod.path = path

def vcsSetting (acc : Bytes × Bytes × Bytes) (v : BuildSetting) : Bytes × Bytes × Bytes :=
  if v.key = goString "vcs.revision" then (v.value, acc.2.1, acc.2.2)
  else if v.key = goString "vcs.modified" then
    if v.value = goString "true" then (acc.1, goString " (dirty)", acc.2.2) else acc
  else if v.key = goString "vcs.time" then (acc.1, acc.2.1, v.value)
  else acc

-- `vcsInfo` reads the build information again and does not look at its argument.
def vcsInfo (_ : BuildInfo) (readBuildInfo : Option BuildInfo) : Bytes × Bytes × Bytes :=
  match readBuildInfo with
  | none => (goString "unknown", [], goString "unknown")
  | some info => info.settings.foldl vcsSetting (goString "unknown", [], goString "unknown")

def runtimeInfo (readBuildInfo : Option BuildInfo) (goVersion goarch goos : Bytes) : Except Failure Bytes :=
  let version : Except Failure Bytes :=
    match readBuildInfo with
    | none => .ok versionWithMeta
    | some buildInfo =>
        if ourPath <+: buildInfo.path then
          let (revision, dirty, date) := vcsInfo buildInfo readBuildInfo
          let version := goString "geth " ++ versionWithCommit revision date
          .ok (if dirty ≠ [] then version ++ goString " " ++ dirty else version)
        else
          match findModule buildInfo ourPath with
          | none => .error nilDereference
          | some mod =>
              .ok (match mod.replace with
                | none => mod.version
                | some (path, v) => mod.version ++ goString " (replaced by " ++ path ++ goString "@" ++ v ++ goString ")")
  version.map fun v => v ++ goString " " ++ goVersion ++ goString " " ++ goarch ++ goString " " ++ goos

theorem vcsSetting_dirty (acc : Bytes × Bytes × Bytes) (v : BuildSetting) :
    (vcsSetting acc v).2.1 =
      if v.key = goString "vcs.modified" ∧ v.value = goString "true" then goString " (dirty)" else acc.2.1 := by
  have distinct : goString "vcs.revision" ≠ goString "vcs.modified" := by decide
  unfold vcsSetting
  by_cases revision : v.key = goString "vcs.revision"
  · simp [revision, distinct]
  · split_ifs <;> simp_all

def lastSetting (settings : List BuildSetting) (key default : Bytes) : Bytes :=
  ((settings.filter fun v => v.key = key).map (·.value)).getLastD default

theorem lastSetting_cons (v : BuildSetting) (settings : List BuildSetting) (key default : Bytes) :
    lastSetting (v :: settings) key default = lastSetting settings key (if v.key = key then v.value else default) := by
  by_cases same : v.key = key <;> simp only [lastSetting, List.filter_cons, same, decide_True, decide_False,
    if_true, if_false, Bool.false_eq_true, List.map_cons, List.getLastD_cons]

theorem vcsSetting_revision (acc : Bytes × Bytes × Bytes) (v : BuildSetting) :
    (vcsSetting acc v).1 = if v.key = goString "vcs.revision" then v.value else acc.1 := by
  unfold vcsSetting
  split_ifs <;> rfl

theorem vcsSetting_date (acc : Bytes × Bytes × Bytes) (v : BuildSetting) :
    (vcsSetting acc v).2.2 = if v.key = goString "vcs.time" then v.value else acc.2.2 := by
  have distinct : goString "vcs.revision" ≠ goString "vcs.time" ∧ goString "vcs.modified" ≠ goString "vcs.time" := by
    decide
  unfold vcsSetting
  split_ifs <;> simp_all

theorem foldl_vcsSetting (settings : List BuildSetting) (acc : Bytes × Bytes × Bytes) :
    settings.foldl vcsSetting acc =
      (lastSetting settings (goString "vcs.revision") acc.1,
        if ∃ v ∈ settings, v.key = goString "vcs.modified" ∧ v.value = goString "true" then goString " (dirty)"
        else acc.2.1,
        lastSetting settings (goString "vcs.time") acc.2.2) := by
  induction settings generalizing acc with
  | nil => simp [lastSetting]
  | cons v rest ih =>
      rw [List.foldl_cons, ih, vcsSetting_revision, vcsSetting_dirty, vcsSetting_date, lastSetting_cons, lastSetting_cons]
      by_cases marked : v.key = goString "vcs.modified" ∧ v.value = goString "true" <;> simp [marked]

/-- The mark is ` (dirty)` exactly when some setting says `vcs.modified=true`. -/
theorem vcsInfo_dirty (info b : BuildInfo) :
    (vcsInfo info (some b)).2.1 =
      if ∃ v ∈ b.settings, v.key = goString "vcs.modified" ∧ v.value = goString "true" then goString " (dirty)"
      else [] := by
  simp [vcsInfo, foldl_vcsSetting]

/-- `RuntimeInfo` panics exactly when the build information is there, its main package is not under
    go-ethereum's path, and no dependency has that path. -/
theorem runtimeInfo_panics_iff (readBuildInfo : Option BuildInfo) (goVersion goarch goos : Bytes) :
    (∃ failure, runtimeInfo readBuildInfo goVersion goarch goos = .error failure) ↔
      ∃ info, readBuildInfo = some info ∧ ¬ ourPath <+: info.path ∧
        ∀ mod ∈ info.deps, mod.path ≠ ourPath := by
  rcases readBuildInfo with _ | info
  · simp [runtimeInfo, Except.map]
  by_cases under : ourPath <+: info.path
  · simp [runtimeInfo, Except.map, under]
  have lookup : findModule info ourPath = info.deps.find? (fun mod => mod.path = ourPath) :=
    if_neg fun (same : info.path = ourPath) => under (same ▸ List.prefix_refl _)
  rcases found : info.deps.find? (fun mod => mod.path = ourPath) with _ | mod
  · simpa [runtimeInfo, Except.map, under, lookup, found] using List.find?_eq_none.1 found
  · simpa [runtimeInfo, Except.map, under, lookup, found] using
      ⟨mod, List.mem_of_find?_eq_some found, by simpa using List.find?_some found⟩

/-- A binary whose main package is under go-ethereum's path prints `geth`, then `VersionWithCommit` of
    the last `vcs.revision` and `vcs.time` settings (`unknown` without one), then, when the tree was
    modified, the mark after a second space, then the Go version and platform. -/
theorem runtimeInfo_of_geth_main (b : BuildInfo) (goVersion goarch goos : Bytes) (ours : ourPath <+: b.path) :
    runtimeInfo (some b) goVersion goarch goos =
      .ok (goString "geth " ++ versionWithCommit (lastSetting b.settings (goString "vcs.revision") (goString "unknown"))
            (lastSetting b.settings (goString "vcs.time") (goString "unknown")) ++
          (if ∃ v ∈ b.settings, v.key = goString "vcs.modified" ∧ v.value = goString "true" then
            goString " " ++ goString " (dirty)" else []) ++
          goString " " ++ goVersion ++ goString " " ++ goarch ++ goString " " ++ goos) := by
  have marked : goString " (dirty)" ≠ [] := by decide
  by_cases dirty : ∃ v ∈ b.settings, v.key = goString "vcs.modified" ∧ v.value = goString "true" <;>
    simp [runtimeInfo, ours, vcsInfo, foldl_vcsSetting, Except.map, dirty, marked]

theorem runtimeInfo_dirty_checkout :
    ourPath <+: ourPath ++ goString "/cmd/geth" ∧
      runtimeInfo (some ⟨ourPath ++ goString "/cmd/geth", ⟨ourPath, goString "(devel)", none⟩, [],
          [⟨goString "vcs.revision", goString "0123456789abcdef"⟩, ⟨goString "vcs.modified", goString "true"⟩]⟩)
          (goString "go1.19") (goString "amd64") (goString "linux") =
        .ok (goString "geth " ++ versionWithCommit (goString "0123456789abcdef") (goString "unknown") ++
          (goString " " ++ goString " (dirty)") ++ goString " " ++ goString "go1.19" ++ goString " " ++ goString "amd64" ++
          goString " " ++ goString "linux") :=
  ⟨List.prefix_append _ _, runtimeInfo_of_geth_main _ _ _ _ (List.prefix_append _ _)⟩

end ProtocolCtf.Params
