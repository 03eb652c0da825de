import BootcOperator.Controller.Watches
import BootcOperator.Effects.Tables

/-!
# The watch on pull secrets

`fetchPullSecretData` reads one entry of a Secret, whatever the type of the
Secret is, and the watch drops the events of Secrets of another type than
`kubernetes.io/dockerconfigjson`.
-/

namespace BootcOperator

open Program

/-- The cluster with another Secret under the name. -/
def Cluster.putSecret (cluster : Cluster) (secretNamespace name : String)
    (secret : Option Secret) : Cluster :=
  { cluster with
    secret := fun ns other =>
      if ns = secretNamespace ∧ other = name then secret
      else cluster.secret ns other }

/-- What `fetchPullSecretData` returns when it reads a cluster; `none` is an
error. -/
def fetched (r : BootcNodePoolReconciler) (pool : BootcNodePool)
    (cluster : Cluster) : Option (Option String) :=
  (r.fetchPullSecretData (.calm [] 0) pool
    (.start
      { api := cluster
        drains := fun _ => none
        cordoned := fun _ => false })).1.toOption

/-- Every pool for which the reader returns something else after the event is
requested. -/
def ReaderWatched (r : BootcNodePoolReconciler) (pools : List BootcNodePool)
    (cluster : Cluster) (secretNamespace name : String)
    (event : ObjectEvent Secret) : Prop :=
  ∀ pool ∈ pools,
    fetched r pool (cluster.putSecret secretNamespace name event.before) ≠
      fetched r pool (cluster.putSecret secretNamespace name event.after) →
    secretTypePredicate event = true ∧
      pool.name ∈ mapSecretToPoolRequests pools secretNamespace name

/-- The entry of a Secret that the reader returns. -/
def credentials (secret : Option Secret) : Option String :=
  secret.bind fun secret => secret.data.lookup dockerConfigJsonKey

/-- The pool refers to the Secret, in a namespace the operator may read. -/
def ReadsSecret (r : BootcNodePoolReconciler) (secretNamespace name : String)
    (pool : BootcNodePool) : Prop :=
  pool.spec.pullSecretRef = some ⟨name, secretNamespace⟩ ∧
    secretNamespace ∈ r.pullSecretNamespaces

instance (r : BootcNodePoolReconciler) (secretNamespace name : String)
    (pool : BootcNodePool) :
    Decidable (ReadsSecret r secretNamespace name pool) :=
  inferInstanceAs (Decidable (_ ∧ _))

section Reader

variable {r : BootcNodePoolReconciler} {pool : BootcNodePool}
  {secretNamespace name : String} {cluster : Cluster}

theorem fetched_of_reads (reads : ReadsSecret r secretNamespace name pool) :
    fetched r pool cluster =
      (credentials (cluster.secret secretNamespace name)).map some := by
  obtain ⟨isRef, allowed⟩ := reads
  unfold fetched BootcNodePoolReconciler.fetchPullSecretData
  rw [isRef]
  dsimp only
  rw [if_neg (not_not.mpr allowed)]
  cases found : cluster.secret secretNamespace name with
  | none =>
      simp [Pass.get, Pass.query, Pass.send, Env.calm, bind_apply, mapError,
        PassState.start, found, credentials, Except.toOption]
  | some secret =>
      cases entry : secret.data.lookup dockerConfigJsonKey <;>
        simp [Pass.get, Pass.query, Pass.send, Env.calm, bind_apply, mapError,
          PassState.start, found, entry, credentials, Except.toOption]

/-- A pool that does not read a Secret gets the same without it. -/
theorem fetched_putSecret_of_not_reads
    (others : ¬ ReadsSecret r secretNamespace name pool)
    (old new : Option Secret) :
    fetched r pool (cluster.putSecret secretNamespace name old) =
      fetched r pool (cluster.putSecret secretNamespace name new) := by
  cases isRef : pool.spec.pullSecretRef with
  | none =>
      unfold fetched BootcNodePoolReconciler.fetchPullSecretData
      rw [isRef]
      rfl
  | some ref =>
      obtain ⟨refName, refNamespace⟩ := ref
      by_cases allowed : refNamespace ∈ r.pullSecretNamespaces
      · have apart : ¬ (refNamespace = secretNamespace ∧ refName = name) := by
          rintro ⟨rfl, rfl⟩
          exact others ⟨isRef, allowed⟩
        rw [fetched_of_reads ⟨isRef, allowed⟩,
          fetched_of_reads ⟨isRef, allowed⟩]
        simp only [Cluster.putSecret, if_neg apart]
      · unfold fetched BootcNodePoolReconciler.fetchPullSecretData
        rw [isRef]
        dsimp only
        rw [if_pos allowed]
        rfl

theorem fetched_putSecret_eq_iff
    (reads : ReadsSecret r secretNamespace name pool)
    {old new : Option Secret} :
    fetched r pool (cluster.putSecret secretNamespace name old) =
        fetched r pool (cluster.putSecret secretNamespace name new) ↔
      credentials old = credentials new := by
  rw [fetched_of_reads reads, fetched_of_reads reads]
  simp only [Cluster.putSecret, and_self, if_true]
  constructor
  · exact fun same => Option.map_injective (Option.some_injective _) same
  · exact fun same => congrArg _ same

end Reader

theorem mem_mapSecretToPoolRequests
    {pools : List BootcNodePool} {pool : BootcNodePool}
    {secretNamespace name : String} (member : pool ∈ pools)
    (isRef : pool.spec.pullSecretRef = some ⟨name, secretNamespace⟩) :
    pool.name ∈ mapSecretToPoolRequests pools secretNamespace name := by
  refine List.mem_map_of_mem (List.mem_filter.mpr ⟨member, ?_⟩)
  simp [isRef]

/-- The watch misses a change of what a pool reads exactly when the Secret has
another type, which the reader does not look at. -/
theorem secret_watch_complete_iff
    (r : BootcNodePoolReconciler) (pools : List BootcNodePool)
    (cluster : Cluster) (secretNamespace name : String)
    (event : ObjectEvent Secret) :
    ReaderWatched r pools cluster secretNamespace name event ↔
      event.carried.type = secretTypeDockerConfigJson ∨
        credentials event.before = credentials event.after ∨
        ∀ pool ∈ pools, ¬ ReadsSecret r secretNamespace name pool := by
  constructor
  · intro watched
    by_cases typed : event.carried.type = secretTypeDockerConfigJson
    · exact .inl typed
    by_cases same : credentials event.before = credentials event.after
    · exact .inr (.inl same)
    refine .inr (.inr fun pool member reads => typed ?_)
    have passes := watched pool member
      ((fetched_putSecret_eq_iff reads).not.mpr same)
    simpa [secretTypePredicate] using passes.1
  · intro condition pool member differs
    have reads : ReadsSecret r secretNamespace name pool := by
      by_contra others
      exact differs (fetched_putSecret_of_not_reads others _ _)
    have requested := mem_mapSecretToPoolRequests member reads.1
    rcases condition with typed | same | unread
    · exact ⟨by simpa [secretTypePredicate] using typed, requested⟩
    · exact absurd ((fetched_putSecret_eq_iff reads).mpr same) differs
    · exact absurd reads (unread pool member)

def untypedSecret : Secret :=
  { type := "Opaque"
    data := [(dockerConfigJsonKey, "token")] }

def privatePool : BootcNodePool :=
  { osPool "os" with
    spec :=
      { (osPool "os").spec with pullSecretRef := some ⟨"pull", "registry"⟩ } }

/-- The reader accepts the new Secret, and the watch drops its creation. -/
theorem secret_watch_misses_untyped_secret :
    ¬ ReaderWatched { osReconciler with pullSecretNamespaces := ["registry"] }
      [privatePool] ({} : Tables).world.api "registry" "pull"
      (.create untypedSecret) := by
  intro watched
  have stuck := (watched privatePool (List.mem_singleton.mpr rfl)
    (by decide)).1
  exact absurd stuck (by decide)

end BootcOperator
