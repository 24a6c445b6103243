import Rollout.Command.Lint
import Rollout.Config.View
import Rollout.Proofs.Config.Origin
import Rollout.Proofs.Document.Problems
import Rollout.Ssh.Command

/-!
# Passwords stay unseen

A host may have a password, in its entry or among the shared fields. It is read and kept, and that
is all: to compile a document without its passwords is to compile the document and forget the
passwords then. What is shown of a configuration, what `ssh` is given and what is found wrong with
the files are the same after the passwords have been forgotten. So two documents that differ in
their passwords alone either fail alike, or their configurations cannot be told apart.

The one way in which a password counts is its kind, since a number or a list in its place is an
error. Documents with such a value are left out here.

## Main definitions

* `Document.withoutPasswords`, `Config.withoutPasswords` — passwords forgotten before and after
* `Document.PasswordsFit` — the passwords of a document are text, `null` or left out
* `Config.Indistinct` — configurations that look alike from outside

## Main results

* `Document.compile_withoutPasswords` — forgetting passwords before or after is the same
* `Config.Indistinct.of_withoutPasswords` — what is seen does not depend on passwords
* `Document.compile_indistinct` — documents that differ in passwords fail alike or look alike
-/

namespace Rollout

/-! ### Forgetting passwords -/

/-- A document with the passwords of its hosts left out, those that they share included. -/
def Document.withoutPasswords (doc : Document) : Document where
  app := doc.app
  environment := doc.environment
  defaults := ⟨doc.defaults.hosts.erase "password", doc.defaults.services⟩
  hosts := doc.hosts.map (·.erase "password")
  hooks := doc.hooks

/-- The passwords of a document, where there are any, are text or `null`. -/
structure Document.PasswordsFit (doc : Document) : Prop where
  shared : IsOptionalText (doc.defaults.hosts.get? "password")
  own : ∀ entry ∈ doc.hosts, IsOptionalText (entry.get? "password")

/-- A host without its password. -/
def Host.withoutPassword (h : Host) : Host :=
  { h with credentials := { h.credentials with password := none } }

/-- The hosts of a roster without their passwords. -/
def Roster.withoutPasswords (hosts : Roster Host) : Roster Host where
  toList := hosts.toList.map Host.withoutPassword
  nodup := by
    rw [List.map_map]
    exact hosts.nodup

/-- A configuration without the passwords of its hosts. -/
def Config.withoutPasswords (c : Config) : Config :=
  { c with hosts := c.hosts.withoutPasswords }

/-- Two configurations look alike: they are shown alike, `ssh` is given the same words for each of
their hosts, and the same problems are found in whatever workspace and under whatever name. -/
structure Config.Indistinct (c c' : Config) : Prop where
  shown : c.toJson = c'.toJson
  login : ∀ command, c.hosts.map (Ssh.arguments · command) = c'.hosts.map (Ssh.arguments · command)
  problems : ∀ w stored, c.problems w stored = c'.problems w stored

/-! ### Entries without passwords -/

namespace Json

variable {α : Type} {fields : Fields} {key : String}

theorem readField?_erase_ne {other : String} (h : other ≠ key) (read : Json → Except Mismatch α) :
    readField? (fields.erase other) key read = readField? fields key read := by
  rw [readField?, readField?, Dict.get?_erase, if_neg h]

theorem readField?_erase_self (read : Json → Except Mismatch α) :
    readField? (fields.erase key) key read = .ok none := by
  rw [readField?, Dict.get?_erase, if_pos rfl]

theorem exists_readField?_of_isOptionalText (h : Document.IsOptionalText (fields.get? key)) :
    ∃ text, readField? fields key asOptionalString = .ok text := by
  unfold readField?
  rcases h with h | h | ⟨text, h⟩
  · exact ⟨none, by rw [h]⟩
  · exact ⟨some none, by rw [h]; rfl⟩
  · exact ⟨some (some text), by rw [h]; rfl⟩

end Json

namespace Document

variable {common : Common} {entry shared : Fields}

/-- Of an entry without its password all other parts are read as before. -/
theorem HostEntry.ofFields_erase_password {fields : Fields}
    (h : IsOptionalText (fields.get? "password")) :
    HostEntry.ofFields (fields.erase "password") =
      (fun parts : HostEntry => { parts with password := none }) <$> HostEntry.ofFields fields := by
  obtain ⟨text, htext⟩ := Json.exists_readField?_of_isOptionalText h
  have hother : ∀ {α : Type} (key : String) (read : Json → Except Json.Mismatch α),
      key ≠ "password" →
        Json.readField? (fields.erase "password") key read = Json.readField? fields key read :=
    fun key read hkey => Json.readField?_erase_ne hkey.symm read
  rw [HostEntry.ofFields, HostEntry.ofFields, htext, Json.readField?_erase_self,
    hother "name" _ (by decide), hother "pem" _ (by decide), hother "port" _ (by decide),
    hother "services" _ (by decide), hother "shortName" _ (by decide),
    hother "username" _ (by decide)]
  simp only [map_bind, map_pure]
  rfl

/-- Whether a password is left out before or after the shared fields have been filled in. -/
theorem withDefaults_erase (entry shared : Fields) (key : String) :
    withDefaults (entry.erase key) (shared.erase key) = (withDefaults entry shared).erase key := by
  apply Dict.ext_get?
  intro k
  simp only [withDefaults, Dict.get?_orElse, Dict.get?_erase]
  by_cases h : key = k
  · simp [h]
  · simp [h]

theorem isOptionalText_withDefaults {key : String} (hentry : IsOptionalText (entry.get? key))
    (hshared : IsOptionalText (shared.get? key)) :
    IsOptionalText ((withDefaults entry shared).get? key) := by
  rw [get?_withDefaults, effective]
  split
  · rename_i own hown
    rwa [hown] at hentry
  · exact hshared

/-! ### Documents without passwords -/

/-- What all hosts have in common, without a password. -/
def Common.withoutPassword (common : Common) : Common :=
  { common with defaults := ⟨common.defaults.hosts.erase "password", common.defaults.services⟩ }

/-- An entry without its password means the same host without its password. -/
theorem compileHost_erase_password (hentry : IsOptionalText (entry.get? "password"))
    (hshared : IsOptionalText (common.defaults.hosts.get? "password")) :
    compileHost common.withoutPassword (entry.erase "password") =
      Host.withoutPassword <$> compileHost common entry := by
  have hparts := HostEntry.ofFields_erase_password (isOptionalText_withDefaults hentry hshared)
  rw [← withDefaults_erase] at hparts
  unfold compileHost Common.withoutPassword
  dsimp only
  rw [hparts]
  cases HostEntry.ofFields (withDefaults entry common.defaults.hosts) with
  | error cause => rfl
  | ok parts =>
    simp only [map_bind, map_pure]
    rfl

end Document

/-- Names are not lost with the passwords. -/
theorem Roster.ofList_map_withoutPassword (hosts : List Host) :
    Roster.ofList (hosts.map Host.withoutPassword) =
      Roster.withoutPasswords <$> Roster.ofList hosts := by
  have hnames : (hosts.map Host.withoutPassword).map name = hosts.map name := by
    rw [List.map_map]
    rfl
  cases hroster : Roster.ofList hosts with
  | error n =>
    rw [Roster.ofList_eq_error_iff, ← hnames] at hroster
    exact Roster.ofList_eq_error_iff.mpr hroster
  | ok roster =>
    rw [Roster.ofList_eq_ok_iff] at hroster
    refine Roster.ofList_eq_ok_iff.mpr ?_
    rw [← hroster]
    rfl

namespace Document

variable {doc doc' : Document}

theorem withoutPasswords_orEnvironment (doc : Document) (environment : Option String) :
    (doc.orEnvironment environment).withoutPasswords =
      doc.withoutPasswords.orEnvironment environment := by
  obtain ⟨app, named, defaults, hosts, hooks⟩ := doc
  cases named with
  | none => rfl
  | some name =>
    by_cases h : name.isEmpty
    · simp [orEnvironment, withoutPasswords, h]
    · simp [orEnvironment, withoutPasswords, h]

theorem PasswordsFit.orEnvironment (h : doc.PasswordsFit) (environment : Option String) :
    (doc.orEnvironment environment).PasswordsFit := by
  unfold Document.orEnvironment
  split
  · split
    · exact ⟨h.shared, h.own⟩
    · exact h
  · exact ⟨h.shared, h.own⟩

/-- The entries of a document without their passwords mean its hosts without their passwords. -/
theorem PasswordsFit.mapM_compileHost (h : doc.PasswordsFit) (common : Common)
    (hcommon : common.defaults = doc.defaults) :
    (doc.hosts.map (·.erase "password")).mapM (compileHost common.withoutPassword) =
      List.map Host.withoutPassword <$> doc.hosts.mapM (compileHost common) := by
  apply mapM_map_eq_map
  intro entry hentry
  exact compileHost_erase_password (h.own entry hentry) (hcommon ▸ h.shared)

/-- A document without its passwords means the same configuration without its passwords, or fails
with the same error. -/
theorem compile_withoutPasswords (h : doc.PasswordsFit) (dir : String) (around : Surroundings) :
    doc.withoutPasswords.compile dir around =
      Config.withoutPasswords <$> doc.compile dir around := by
  unfold compile
  rw [map_bind]
  apply bind_congr
  intro base
  have henv : filled doc.withoutPasswords.environment = filled doc.environment := rfl
  rw [henv]
  cases filled doc.environment with
  | none => rfl
  | some environment =>
    dsimp only
    rw [map_bind]
    apply bind_congr
    intro hooks
    have hhosts := h.mapM_compileHost ⟨base, around.home, doc.defaults, environment,
      ⟨doc.app.name, Path.resolve base doc.app.path⟩, hooks⟩ rfl
    dsimp only [withoutPasswords]
    dsimp only [Common.withoutPassword] at hhosts
    rw [hhosts, bind_map_left, map_bind]
    apply bind_congr
    intro hosts
    -- the passwords are no matter of whether the names of the hosts are distinct
    rw [Roster.ofList_map_withoutPassword]
    cases Roster.ofList hosts with
    | error host => rfl
    | ok roster => rfl

end Document

/-! ### What is seen of a configuration -/

namespace Config

theorem toJson_withoutPasswords (c : Config) : c.withoutPasswords.toJson = c.toJson := by
  simp only [toJson, withoutPasswords, Roster.withoutPasswords, Roster.map, List.map_map]
  rfl

theorem map_arguments_withoutPasswords (c : Config) (command : String) :
    c.withoutPasswords.hosts.map (Ssh.arguments · command) =
      c.hosts.map (Ssh.arguments · command) := by
  simp only [withoutPasswords, Roster.withoutPasswords, Roster.map, List.map_map]
  rfl

theorem problems_withoutPasswords (c : Config) (w : Workspace) (stored : String) :
    c.withoutPasswords.problems w stored = c.problems w stored := by
  simp only [problems, withoutPasswords, Roster.withoutPasswords, Roster.isEmpty,
    List.isEmpty_map, List.flatMap_map]
  rfl

/-- Configurations that differ in passwords alone look alike. -/
theorem Indistinct.of_withoutPasswords {c c' : Config}
    (h : c.withoutPasswords = c'.withoutPasswords) : c.Indistinct c' where
  shown := by rw [← toJson_withoutPasswords, h, toJson_withoutPasswords]
  login command := by
    rw [← map_arguments_withoutPasswords, h, map_arguments_withoutPasswords]
  problems w stored := by
    rw [← problems_withoutPasswords, h, problems_withoutPasswords]

end Config

/-- Documents that differ only in what passwords they have, if any, either fail with the same error
or mean configurations that look alike, seen from the same directory and with the same environment
to fall back to. -/
theorem Document.compile_indistinct {doc doc' : Document}
    (hsame : doc.withoutPasswords = doc'.withoutPasswords) (hfit : doc.PasswordsFit)
    (hfit' : doc'.PasswordsFit) (fallback : Option String) (dir : String)
    (around : Surroundings) :
    (∃ e, (doc.orEnvironment fallback).compile dir around = .error e ∧
        (doc'.orEnvironment fallback).compile dir around = .error e) ∨
      ∃ c c', (doc.orEnvironment fallback).compile dir around = .ok c ∧
        (doc'.orEnvironment fallback).compile dir around = .ok c' ∧ c.Indistinct c' := by
  have hcompile : Config.withoutPasswords <$> (doc.orEnvironment fallback).compile dir around =
      Config.withoutPasswords <$> (doc'.orEnvironment fallback).compile dir around := by
    rw [← compile_withoutPasswords (hfit.orEnvironment fallback),
      ← compile_withoutPasswords (hfit'.orEnvironment fallback),
      withoutPasswords_orEnvironment, withoutPasswords_orEnvironment, hsame]
  cases h : (doc.orEnvironment fallback).compile dir around with
  | error e =>
    cases h' : (doc'.orEnvironment fallback).compile dir around with
    | error e' =>
      rw [h, h'] at hcompile
      cases hcompile
      exact .inl ⟨e, rfl, rfl⟩
    | ok c' =>
      rw [h, h'] at hcompile
      cases hcompile
  | ok c =>
    cases h' : (doc'.orEnvironment fallback).compile dir around with
    | error e' =>
      rw [h, h'] at hcompile
      cases hcompile
    | ok c' =>
      rw [h, h'] at hcompile
      exact .inr ⟨c, c', rfl, rfl, .of_withoutPasswords (Except.ok.inj hcompile)⟩

/-- A document whose host has a private key, with the given passwords for the host itself and for
all hosts. -/
def secretDocument (own shared : List (String × Json)) : Document where
  app := ⟨"shop", "../app"⟩
  environment := some "staging"
  defaults := ⟨.ofList (("username", .string "deploy") :: shared), ∅⟩
  hosts := [.ofList (("name", .string "a.example.com") :: ("pem", .string "~/.ssh/key") :: own)]
  hooks := ∅

/-- A password that all hosts share, although it is kept, cannot be told from none. -/
theorem secretDocument_indistinct :
    ∃ c c', (secretDocument [] [("password", .string "open sesame")]).compile "/srv/deploy"
        ⟨some "/", "/home/me"⟩ = .ok c ∧
      (secretDocument [("password", .null)] []).compile "/srv/deploy"
        ⟨some "/", "/home/me"⟩ = .ok c' ∧
      c.hosts.map (·.credentials.password) = [some "open sesame"] ∧
      c'.hosts.map (·.credentials.password) = [none] ∧ c.Indistinct c' := by
  have hshared : (secretDocument [] [("password", .string "open sesame")]).PasswordsFit := by
    refine ⟨.inr (.inr ⟨"open sesame", rfl⟩), fun entry hentry => ?_⟩
    obtain rfl := List.mem_singleton.mp hentry
    exact .inl rfl
  have hnone : (secretDocument [("password", .null)] []).PasswordsFit := by
    refine ⟨.inl rfl, fun entry hentry => ?_⟩
    obtain rfl := List.mem_singleton.mp hentry
    exact .inr (.inl rfl)
  have hkept : ∀ {doc : Document} {c : Config},
      doc.compile "/srv/deploy" ⟨some "/", "/home/me"⟩ = .ok c →
        (doc.compile "/srv/deploy" ⟨some "/", "/home/me"⟩).map
          (·.hosts.map (·.credentials.password)) = .ok (c.hosts.map (·.credentials.password)) := by
    intro doc c h
    rw [h]
    rfl
  rcases Document.compile_indistinct (by rfl) hshared hnone none "/srv/deploy"
      ⟨some "/", "/home/me"⟩ with ⟨e, h, -⟩ | ⟨c, c', h, h', hlike⟩
  · cases h
  · refine ⟨c, c', h, h', ?_, ?_, hlike⟩
    · exact Except.ok.inj (hkept h).symm
    · exact Except.ok.inj (hkept h').symm

end Rollout
