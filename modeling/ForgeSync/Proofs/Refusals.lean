import ForgeSync.Proofs.Run
import ForgeSync.GitHub.Kinds
import ForgeSync.Bitbucket.Kinds

/-!
# How the clients read a refusal

Two calls read a refusal of the service as something more specific than the transport does.
A Bitbucket Server pull request is updated at the version it was read at, so a conflict (409)
means that version is stale.  A GitHub create refused as unprocessable (422) means that the
resource exists when the message says so, and that the request is invalid otherwise.

Each of these calls sends one request and reads the error it fails with as that error stands
(`Channel.FailsAs`).  The HTTP transport returns a refusal it retried until its schedule ran out
wrapped in `retriesExhausted`, with the number of attempts, and neither reading looks inside the
wrapper: such a refusal passes unread, and keeps the kind of what the transport made of the
response, an existing resource for a conflict and a plain HTTP error for an unprocessable one.

Main statement: `refusals_read_unwrapped`.
-/

namespace ForgeSync

namespace Channel

variable {β γ : Type} {req : Request} {f : ApiError → ApiError}

/-- A call fails as sending `req` does, the error read by `f`: from every channel from which
sending `req` fails, the call fails with the error read by `f` and leaves the channel as the
send left it. -/
def FailsAs (req : Request) (f : ApiError → ApiError) (run : Call Channel β) : Prop :=
  ∀ ch e ch', (send req).runOn ch = (.error e, ch') → run.runOn ch = (.error (f e), ch')

theorem failsAs_send (req : Request) : FailsAs req id (send req) := fun _ _ _ h => h

/-- Whatever a call does after its request, a failed request ends it. -/
theorem FailsAs.bind {x : Call Channel β} (hx : FailsAs req f x) (g : β → Call Channel γ) :
    FailsAs req f (x >>= g) := fun ch e ch' h =>
  Call.runOn_bind_error (hx ch e ch' h)

theorem failsAs_fetch {α : Type} (req : Request) (read : Json → Json.Decoded α) :
    FailsAs req id (fetch req read) :=
  (failsAs_send req).bind _

/-- A handler that fails with the error `g` reads from the one it is given, and leaves the
channel alone, reads the errors of the call it guards by `g`. -/
theorem FailsAs.tryCatch {x : Call Channel β} (hx : FailsAs req f x) (g : ApiError → ApiError)
    {h : ApiError → Call Channel β} (hg : ∀ e ch, (h e).runOn ch = (.error (g e), ch)) :
    FailsAs req (g ∘ f) (tryCatch x h) := fun ch e ch' hs => by
  rw [Call.runOn_tryCatch, hx ch e ch' hs]
  exact hg (f e) ch'

end Channel

open Channel

/-! ### GitHub: a create refused as unprocessable -/

namespace GitHub

theorem fetchCreated_failsAs {α : Type} (req : Request) (read : Json → Json.Decoded α) :
    FailsAs req alreadyExistsOnCreate (fetchCreated req read) :=
  (failsAs_fetch req read).tryCatch alreadyExistsOnCreate fun _ _ => rfl

/-- An unprocessable create is an existing resource when the message says so, and an invalid
request otherwise. -/
theorem alreadyExistsOnCreate_unprocessable (body : List UInt8) :
    (alreadyExistsOnCreate (classify 422 body)).kind =
      if Text.containsText (errorMessage body) "already exists" then .alreadyExists
      else .validation := by
  have hc : classify 422 body = .http 422 (errorMessage body) := rfl
  rw [hc, alreadyExistsOnCreate]
  split <;> rfl

/-- A refusal wrapped by the retry loop is not read. -/
@[simp] theorem alreadyExistsOnCreate_retriesExhausted (n : Nat) (e : ApiError) :
    alreadyExistsOnCreate (.retriesExhausted n e) = .retriesExhausted n e := rfl

end GitHub

/-! ### Bitbucket Server: an update refused with a conflict -/

namespace Bitbucket

namespace Pull

variable (ref : PullRequestRef) (raw : PullRecord)

theorem staleOnConflict_conflict (body : List UInt8) :
    staleOnConflict ref raw (classify 409 body) =
      .versionConflict ref.display raw.version (errorMessage body) := rfl

/-- A refusal wrapped by the retry loop is not read. -/
@[simp] theorem staleOnConflict_retriesExhausted (n : Nat) (e : ApiError) :
    staleOnConflict ref raw (.retriesExhausted n e) = .retriesExhausted n e := rfl

/-- The update puts the pull request and reads its refusal by `staleOnConflict`. -/
theorem update_failsAs :
    ∃ req : Request, req.method = .put ∧
      req.path = pullsPath ref.repository ++ "/" ++ toString raw.id ∧
      FailsAs req (staleOnConflict ref raw) (update ref raw) :=
  ⟨_, by rfl, by rfl, ((failsAs_fetch _ _).tryCatch (staleOnConflict ref raw)
    fun _ _ => rfl).bind _⟩

end Pull

end Bitbucket

/-- A refusal is read by the clients only as the transport returns it.  The Bitbucket Server
update of a pull request fails as its one put does, the error read by `staleOnConflict`,
and each GitHub create fails as its one post does, the error read by
`alreadyExistsOnCreate`.  So a conflict returned as it stands reads as a stale version, and an
unprocessable create as an existing resource or an invalid request by its message; the same
refusals returned after retries, wrapped in `retriesExhausted`, pass unread, with the kind of an
existing resource and of a plain HTTP error. -/
theorem refusals_read_unwrapped (opts : PageOptions) (ref : PullRequestRef)
    (raw : Bitbucket.PullRecord) (body : List UInt8) (n : Nat) :
    (∃ req : Request, req.method = .put ∧
      req.path = Bitbucket.Pull.pullsPath ref.repository ++ "/" ++ toString raw.id ∧
      FailsAs req (Bitbucket.Pull.staleOnConflict ref raw)
        ((Bitbucket.pullRequestKind opts).update ref raw)) ∧
    (∀ (r : RepositoryRef) (s : RepositorySpec), ∃ req : Request, req.method = .post ∧
      req.path = "orgs/" ++ r.organization ++ "/repos" ∧
      FailsAs req GitHub.alreadyExistsOnCreate (GitHub.repositoryKind.create r s)) ∧
    (∀ (k : DeployKeyRef) (s : DeployKeySpec), ∃ req : Request, req.method = .post ∧
      req.path = GitHub.Key.keysPath k.repository ∧
      FailsAs req GitHub.alreadyExistsOnCreate ((GitHub.deployKeyKind opts).create k s)) ∧
    (∀ s : PullRequestSpec, ∃ req : Request, req.method = .post ∧
      req.path = GitHub.Pull.pullsPath ref.repository ∧
      FailsAs req GitHub.alreadyExistsOnCreate ((GitHub.pullRequestKind opts).create ref s)) ∧
    ((Bitbucket.Pull.staleOnConflict ref raw (classify 409 body)).kind = .versionConflict ∧
      (Bitbucket.Pull.staleOnConflict ref raw (.retriesExhausted n (classify 409 body))).kind =
        .alreadyExists) ∧
    ((GitHub.alreadyExistsOnCreate (classify 422 body)).kind =
        (if Text.containsText (errorMessage body) "already exists" then .alreadyExists
         else .validation) ∧
      (GitHub.alreadyExistsOnCreate (.retriesExhausted n (classify 422 body))).kind = .http) := by
  refine ⟨Bitbucket.Pull.update_failsAs ref raw, fun _ _ => ?_, fun _ _ => ?_, fun _ => ?_, ?_, ?_⟩
  -- each create posts one request through `fetchCreated`
  · exact ⟨_, by rfl, by rfl, (GitHub.fetchCreated_failsAs _ _).bind _⟩
  · exact ⟨_, by rfl, by rfl, (GitHub.fetchCreated_failsAs _ _).bind _⟩
  · exact ⟨_, by rfl, by rfl, (GitHub.fetchCreated_failsAs _ _).bind _⟩
  · rw [Bitbucket.Pull.staleOnConflict_conflict, Bitbucket.Pull.staleOnConflict_retriesExhausted]
    exact ⟨rfl, rfl⟩
  · rw [GitHub.alreadyExistsOnCreate_retriesExhausted]
    exact ⟨GitHub.alreadyExistsOnCreate_unprocessable body, rfl⟩

/-- A conflict that the transport retried until it gave up reaches the caller of a Bitbucket
Server pull request update as an existing resource, not as a stale version. -/
theorem stale_version_unread_after_retries :
    let ch : Channel :=
      { transport := .replay { script := [.error (.retriesExhausted 2 (.alreadyExists "stale"))] } }
    let ref : PullRequestRef :=
      { repository := { organization := "PRJ", slug := "billing" }, sourceBranch := "feature" }
    let raw : Bitbucket.PullRecord := { id := 2, version := 4, title := "T" }
    ∃ e, (((Bitbucket.pullRequestKind {}).update ref raw).runOn ch).1 = .error e ∧
      e.kind = .alreadyExists :=
  ⟨_, rfl, rfl⟩

end ForgeSync
