import ForgeSync.Spec
import ForgeSync.Json.Decode

/-!
# Specs as JSON

The JSON form of specs and of the values inside them.  Field names are written in snake
case; an unset optional field is left out; a deploy key's mode defaults to read-only.
Visibility and levels are their lowercase words, matched exactly.  Members the form does not
name are ignored.
-/

namespace ForgeSync

/-- A visibility read from its exact word. -/
def Visibility.readJson : Json → Json.Decoded Visibility :=
  Json.readWord ([Visibility.everyone, .restricted, .internal].map (fun v => (v.name, v)))

/-- A level read from its exact lowercase name. -/
def Level.readJson : Json → Json.Decoded Level :=
  Json.readWord (Level.all.map (fun l => (l.name, l)))

/-- Members for the optional fields that are set. -/
def optionalMembers (ms : List (String × Option Json)) : List (String × Json) :=
  ms.filterMap (fun m => m.2.map (fun v => (m.1, v)))

namespace RepositorySpec

/-- Read a repository spec. -/
def ofJson? (j : Json) : Json.Decoded RepositorySpec := do
  let [name, description, defaultBranch, visibility] ←
    Json.slots "RepositorySpec" ["name", "description", "default_branch", "visibility"] j
    | .error "record shape"
  pure {
    name := ← name.required Json.readStr
    description := ← description.optionalOrAbsent Json.readStr
    defaultBranch := ← defaultBranch.optionalOrAbsent Json.readStr
    visibility := ← visibility.optionalOrAbsent Visibility.readJson }

/-- Write a repository spec. -/
def toJson (s : RepositorySpec) : Json :=
  .obj ([("name", .str s.name)] ++ optionalMembers
    [("description", s.description.map .str), ("default_branch", s.defaultBranch.map .str),
     ("visibility", s.visibility.map (fun v => .str v.name))])

end RepositorySpec

namespace DeployKeySpec

/-- Read a deploy key spec; the mode defaults to read-only. -/
def ofJson? (j : Json) : Json.Decoded DeployKeySpec := do
  let [label, key, readOnly] ← Json.slots "DeployKeySpec" ["label", "key", "read_only"] j
    | .error "record shape"
  pure {
    label := ← label.required Json.readStr
    key := ← key.required Json.readStr
    readOnly := ← readOnly.orDefault true Json.readBool }

/-- Write a deploy key spec. -/
def toJson (s : DeployKeySpec) : Json :=
  .obj [("label", .str s.label), ("key", .str s.key), ("read_only", .bool s.readOnly)]

end DeployKeySpec

namespace TeamAccessSpec

/-- Read a team access spec. -/
def ofJson? (j : Json) : Json.Decoded TeamAccessSpec := do
  let [team, permission] ← Json.slots "TeamAccessSpec" ["team", "permission"] j
    | .error "record shape"
  pure {
    team := ← team.required Json.readStr
    permission := ← permission.required Level.readJson }

/-- Write a team access spec. -/
def toJson (s : TeamAccessSpec) : Json :=
  .obj [("team", .str s.team), ("permission", .str s.permission.name)]

end TeamAccessSpec

namespace PullRequestSpec

/-- Read a pull request spec. -/
def ofJson? (j : Json) : Json.Decoded PullRequestSpec := do
  let [title, description, sourceBranch, targetBranch] ←
    Json.slots "PullRequestSpec" ["title", "description", "source_branch", "target_branch"] j
    | .error "record shape"
  pure {
    title := ← title.required Json.readStr
    description := ← description.optionalOrAbsent Json.readStr
    sourceBranch := ← sourceBranch.required Json.readStr
    targetBranch := ← targetBranch.required Json.readStr }

/-- Write a pull request spec. -/
def toJson (s : PullRequestSpec) : Json :=
  .obj ([("title", .str s.title)] ++ optionalMembers [("description", s.description.map .str)] ++
    [("source_branch", .str s.sourceBranch), ("target_branch", .str s.targetBranch)])

end PullRequestSpec

/-- A spec type with a JSON form. -/
class SpecJson (α : Type) where
  ofJson? : Json → Json.Decoded α
  toJson : α → Json

instance : SpecJson RepositorySpec := ⟨RepositorySpec.ofJson?, RepositorySpec.toJson⟩
instance : SpecJson DeployKeySpec := ⟨DeployKeySpec.ofJson?, DeployKeySpec.toJson⟩
instance : SpecJson TeamAccessSpec := ⟨TeamAccessSpec.ofJson?, TeamAccessSpec.toJson⟩
instance : SpecJson PullRequestSpec := ⟨PullRequestSpec.ofJson?, PullRequestSpec.toJson⟩

end ForgeSync
