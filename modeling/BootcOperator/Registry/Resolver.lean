import BootcOperator.Image.Digest

/-!
# The tag resolver

`internal/registry/resolver.go` over `go-containerregistry`.  A resolution is
modelled with the requests it sends, so that one can say where the
credentials of a pull secret go.  `remote.Get` asks the keychain for the
registry of the reference it is called with.
-/

namespace BootcOperator

/-- What the resolver uses of a `name.Reference`. -/
structure RegistryReference where
  /-- `Context().RegistryStr()` -/
  registry : String
  /-- `Context().RepositoryStr()` -/
  repository : String
  /-- the tag, or the digest of a `name.Digest` -/
  identifier : String
  /-- the reference is a `name.Digest` -/
  isDigest : Bool
  deriving DecidableEq, Repr

/-- The functions of the libraries; `Config` stands for `authn.AuthConfig`. -/
structure RegistryLibrary (Config : Type) where
  /-- `name.ParseReference`, with `name.Insecure` or without -/
  parseReference : (insecure : Bool) → String →
    Except String RegistryReference
  /-- `json.Unmarshal` into the `auths` of a `dockerConfigJSON` -/
  unmarshal : String → Except String (String → Option Config)

/-- A call of `remote.Get`; without credentials it is anonymous. -/
structure ManifestRequest (Config : Type) where
  insecure : Bool
  reference : RegistryReference
  auth : Option Config

/-- What `remote.Get` fails with. -/
structure FetchError where
  text : String
  /-- it is a `tls.CertificateVerificationError` -/
  isCertificate : Bool
  /-- it is `http.ErrSchemeMismatch` -/
  isSchemeMismatch : Bool

/-- The registries: a request is answered with the digest of a manifest. -/
abbrev Registries (Config : Type) : Type :=
  ManifestRequest Config → Except FetchError String

structure GGCRResolver where
  allowInsecure : Bool

namespace GGCRResolver

variable {Config : Type} (lib : RegistryLibrary Config)

def keychainFromDockerConfig (data : String) :
    Except String (String → Option Config) :=
  (lib.unmarshal data).mapError ("unmarshaling docker config: " ++ ·)

/-- The keychain among the options of a request; `remote.Get` is anonymous
without one. -/
def keychain (auth : Option String) :
    Except String (String → Option Config) :=
  match auth with
  | none => .ok fun _ => none
  | some data =>
      if data = "" then .ok fun _ => none
      else keychainFromDockerConfig lib data

def fetchError (ref : String) (err : FetchError) : String :=
  "fetching manifest for " ++ ref.goQuote ++ ": " ++ err.text

/-- The part of `Resolve` behind the options, with the requests it sends. -/
def fetchManifest (g : GGCRResolver) (registries : Registries Config)
    (ref : String) (parsed : RegistryReference)
    (auths : String → Option Config) :
    List (ManifestRequest Config) × Except String String :=
  let secure := ⟨false, parsed, auths parsed.registry⟩
  match registries secure with
  | .ok digest => ([secure], .ok digest)
  | .error err =>
      if (err.isCertificate || err.isSchemeMismatch) && g.allowInsecure then
        match lib.parseReference true ref with
        | .error err =>
            ([secure],
              .error ("parsing reference " ++ ref.goQuote ++ ": " ++ err))
        | .ok parsed =>
            let insecure := ⟨true, parsed, auths parsed.registry⟩
            ([secure, insecure],
              (registries insecure).mapError (fetchError ref))
      else ([secure], .error (fetchError ref err))

def resolve (g : GGCRResolver) (registries : Registries Config)
    (ref : String) (auth : Option String) :
    List (ManifestRequest Config) × Except String String :=
  match lib.parseReference false ref with
  | .error err =>
      ([], .error ("parsing reference " ++ ref.goQuote ++ ": " ++ err))
  | .ok parsed =>
      if parsed.isDigest then ([], .ok parsed.identifier)
      else
        match keychain lib auth with
        | .error err =>
            ([], .error ("parsing auth for " ++ ref.goQuote ++ ": " ++ err))
        | .ok auths => g.fetchManifest lib registries ref parsed auths

/-- The requests that may be sent for a reference: they are about this
reference, they carry what the keychain has for its registry, and they are
insecure only where this is allowed. -/
structure Sends (g : GGCRResolver) (ref : String) (auth : Option String)
    (request : ManifestRequest Config) : Prop where
  parsed : lib.parseReference request.insecure ref = .ok request.reference
  authorised : ∃ auths, keychain lib auth = .ok auths ∧
    request.auth = auths request.reference.registry
  permitted : request.insecure = true → g.allowInsecure = true

/-- The digest is the one of the reference, or a registry serves it. -/
inductive Answers (g : GGCRResolver)
    (Serves : ManifestRequest Config → String → Prop) (ref : String)
    (auth : Option String) (digest : String) : Prop
  | contained {parsed : RegistryReference} :
      lib.parseReference false ref = .ok parsed → parsed.isDigest = true →
      parsed.identifier = digest → Answers g Serves ref auth digest
  | served {request : ManifestRequest Config} :
      Sends lib g ref auth request → Serves request digest →
      Answers g Serves ref auth digest

variable {lib} {g : GGCRResolver} {registries : Registries Config}
  {Serves : ManifestRequest Config → String → Prop} {ref : String}
  {auth : Option String}

theorem fetchManifest_spec
    {parsed : RegistryReference} {auths : String → Option Config}
    (isParsed : lib.parseReference false ref = .ok parsed)
    (isKeychain : keychain lib auth = .ok auths) :
    (∀ request ∈ (g.fetchManifest lib registries ref parsed auths).1,
      Sends lib g ref auth request) ∧
    ∀ digest,
      (g.fetchManifest lib registries ref parsed auths).2 = .ok digest →
        ∃ request, Sends lib g ref auth request ∧
          registries request = .ok digest := by
  have secure : Sends lib g ref auth ⟨false, parsed, auths parsed.registry⟩ :=
    ⟨isParsed, ⟨auths, isKeychain, rfl⟩, nofun⟩
  unfold fetchManifest
  dsimp only
  split
  · next isServed =>
      refine ⟨by simpa using secure, fun digest same => ?_⟩
      cases same
      exact ⟨_, secure, isServed⟩
  · split
    · next permitted =>
        simp only [Bool.and_eq_true] at permitted
        split
        · exact ⟨by simpa using secure, by simp⟩
        · next other isInsecure =>
            have insecure : Sends lib g ref auth
                ⟨true, other, auths other.registry⟩ :=
              ⟨isInsecure, ⟨auths, isKeychain, rfl⟩, fun _ => permitted.2⟩
            refine ⟨by simpa using ⟨secure, insecure⟩, fun digest same => ?_⟩
            refine ⟨_, insecure, ?_⟩
            cases isServed : registries ⟨true, other, auths other.registry⟩ with
            | error err =>
                rw [isServed] at same
                cases same
            | ok found =>
                rw [isServed] at same
                cases same
                rfl
    · exact ⟨by simpa using secure, by simp⟩

theorem resolve_spec
    (serves : ∀ request digest, registries request = .ok digest →
      Serves request digest) :
    (∀ request ∈ (g.resolve lib registries ref auth).1,
      Sends lib g ref auth request) ∧
    ∀ digest, (g.resolve lib registries ref auth).2 = .ok digest →
      Answers lib g Serves ref auth digest := by
  unfold resolve
  split
  · exact ⟨by simp, by simp⟩
  · next parsed isParsed =>
      split
      · next isDigest =>
          exact ⟨by simp, fun digest same =>
            .contained isParsed isDigest (Except.ok.inj same)⟩
      · split
        · exact ⟨by simp, by simp⟩
        · next auths isKeychain =>
            refine ⟨(fetchManifest_spec isParsed isKeychain).1,
              fun digest same => ?_⟩
            obtain ⟨request, sends, isServed⟩ :=
              (fetchManifest_spec isParsed isKeychain).2 digest same
            exact .served sends (serves _ _ isServed)

end GGCRResolver

end BootcOperator
