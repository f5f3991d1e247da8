import Mathlib.Data.List.Induction
import Mathlib.Data.List.Nodup
import Mathlib.Data.List.Range
import PasskeySession.Proofs.WebAuthn.Attestation

/-! # The journal of an authenticator

Every call of an authenticator is noted with what came of it. Main statement: as long as fewer than `2 ^ 32` prompts
succeed, the journal alone tells what the authenticator lists and which key it has under each name, whether a prompt
succeeds, with which key, and with which counter; and a prompt that fails takes nothing but the scripted failure. The
one list of an authenticator stands for its keys by name and the order of their names. -/

namespace PasskeySession.Authenticator

/-! ### Calls -/

/-- A call of an authenticator. -/
inductive Call
  | importKey (c : StoredCredential)
  | scriptFailure (e : AuthenticatorError)
  | create (userName : String) (challenge : Bytes)
  | request (id : Option String) (challenge : Bytes)

/-- A call and what came of it; that of a creation tells what a credential is made of. -/
inductive Act
  | imported (c : StoredCredential)
  | scripted (e : AuthenticatorError)
  | created (fresh : Fresh) (userName : String) (challenge : Bytes) (result : Except AuthenticatorError Credential)
  | requested (id : Option String) (challenge : Bytes) (result : Except AuthenticatorError Assertion)

abbrev Journal := List Act

def call (a : Authenticator) : Call → Act × Authenticator
  | .importKey c => (.imported c, a.importKey c.id c.key c.userHandle)
  | .scriptFailure e => (.scripted e, a.scriptFailure e)
  | .create userName challenge =>
    (.created (a.supply a.made) userName challenge (a.create userName challenge).1, (a.create userName challenge).2)
  | .request id challenge => (.requested id challenge (a.request id challenge).1, (a.request id challenge).2)

/-- Calls one after the other: their journal, and what the authenticator is then. -/
def run (a : Authenticator) (calls : List Call) : Journal × Authenticator :=
  calls.foldl (fun (log, b) c => (log ++ [(b.call c).1], (b.call c).2)) ([], a)

namespace Act

/-- The credential that an act stores. -/
def stored? : Act → Option StoredCredential
  | imported c => some c
  | created fresh userName _ (.ok credential) => some ⟨credential.id, fresh.key, Text.utf8 userName.toList⟩
  | _ => none

def imports : Act → Bool
  | imported _ => true
  | _ => false

def scripted? : Act → Option AuthenticatorError
  | scripted e => some e
  | _ => none

def succeeds : Act → Bool
  | created _ _ _ (.ok _) | requested _ _ (.ok _) => true
  | _ => false

/-- The counter that a successful prompt carries, read from what it gives. -/
def counter? : Act → Option Nat
  | created _ _ _ (.ok credential) => (AuthenticatorData.ofAttestation? credential.attestation).map (·.counter)
  | requested _ _ (.ok assertion) => (AuthenticatorData.ofBytes assertion.authenticatorData).toOption.map (·.counter)
  | _ => none

end Act

/-! ### What a journal tells -/

namespace Journal

def stored (log : Journal) : List StoredCredential := log.filterMap Act.stored?

/-- The names under which credentials were stored, in the order in which they first came. -/
def names (log : Journal) : List String := (log.stored.map (·.id)).eraseDups

/-- The credential that was last stored under a name. -/
def latest? (log : Journal) (id : String) : Option StoredCredential := (log.stored.filter (·.id = id)).getLast?

/-- The credential that a prompt is for: the last one under the given name, or under the first name that ever came. -/
def due? (log : Journal) : Option String → Option StoredCredential
  | some id => log.latest? id
  | none => log.names.head?.bind log.latest?

/-- The failure that the next prompt takes: the one that was scripted last, if nothing but imports came since. -/
def failure? (log : Journal) : Option AuthenticatorError := (log.filter (!·.imports)).getLast?.bind Act.scripted?

def successes (log : Journal) : Nat := log.countP Act.succeeds

/-- A credential of a creation that is the prompt of this number to succeed. -/
structure Creates (count : Nat) (fresh : Fresh) (credential : Credential) : Prop where
  id : credential.id = Text.Base64Url.encodeText fresh.rawId.bytes
  publicKey : credential.publicKey = fresh.key.publicKey
  counter : (AuthenticatorData.ofAttestation? credential.attestation).map (·.counter) = some count

/-- An assertion by a credential that is the prompt of this number to succeed. -/
structure Asserts (count : Nat) (c : StoredCredential) (assertion : Assertion) : Prop where
  id : assertion.id = c.id
  userHandle : assertion.userHandle = some c.userHandle
  signature : assertion.signature =
    Der.encode (c.key.sign (assertion.authenticatorData ++ Sha256.digest assertion.clientData))
  counter : (AuthenticatorData.ofBytes assertion.authenticatorData).toOption.map (·.counter) = some count

/-- What has to come of a call after a journal. -/
def Due (log : Journal) : Act → Prop
  | .imported _ | .scripted _ => True
  | .created fresh _ _ result =>
    match log.failure? with
    | some e => result = .error e
    | none => ∃ credential, result = .ok credential ∧ Creates (log.successes + 1) fresh credential
  | .requested id _ result =>
    match log.failure?, log.due? id with
    | some e, _ => result = .error e
    | none, none => result = .error .noCredential
    | none, some c => ∃ assertion, result = .ok assertion ∧ Asserts (log.successes + 1) c assertion

/-- Each act is what had to come of its call after those before it. -/
def Regular (log : Journal) : Prop := ∀ k x, log[k]? = some x → Due (log.take k) x

/-- An authenticator is as its journal tells. -/
structure Describes (log : Journal) (a : Authenticator) : Prop where
  ids : a.ids = log.names
  find : ∀ id, a.find? id = log.latest? id
  counter : a.counter = log.successes
  failNext : a.failNext = log.failure?

end Journal

/-! ### One more act -/

namespace Journal
variable {log : Journal} {x : Act} {c : StoredCredential}

theorem stored_concat (log : Journal) (x : Act) : (log ++ [x]).stored = log.stored ++ x.stored?.toList := by
  rw [stored, List.filterMap_append]
  cases h : x.stored? with
  | none | some => simp [stored, h]

theorem eraseDups_concat (ids : List String) (id : String) :
    (ids ++ [id]).eraseDups = if id ∈ ids then ids.eraseDups else ids.eraseDups ++ [id] := by
  have hremove : [id].removeAll ids = if id ∈ ids then [] else [id] := by
    by_cases h : id ∈ ids
    · simp [List.removeAll, h]
    · simp [List.removeAll, h]
  rw [List.eraseDups_append, hremove]
  split
  · exact List.append_nil _
  · rfl

theorem names_concat (h : x.stored? = some c) :
    (log ++ [x]).names = if c.id ∈ log.names then log.names else log.names ++ [c.id] := by
  rw [names, stored_concat, h, Option.toList_some, List.map_append, List.map_singleton, eraseDups_concat]
  simp only [names, List.mem_eraseDups]

theorem latest?_concat (h : x.stored? = some c) (id : String) :
    (log ++ [x]).latest? id = if c.id = id then some c else log.latest? id := by
  rw [latest?, stored_concat, h, Option.toList_some, List.filter_append]
  by_cases hc : c.id = id
  · simp [hc]
  · simp [hc, latest?]

theorem failure?_concat (log : Journal) (x : Act) :
    (log ++ [x]).failure? = if x.imports then log.failure? else x.scripted? := by
  rw [failure?, List.filter_append]
  cases h : x.imports with
  | true | false => simp [failure?, h]

theorem successes_concat (log : Journal) (x : Act) : (log ++ [x]).successes = log.successes + x.succeeds.toNat := by
  rw [successes, List.countP_append, successes]
  cases h : x.succeeds with
  | true | false => simp [h]

theorem stored_concat_of_none (h : x.stored? = none) : (log ++ [x]).stored = log.stored := by
  rw [stored_concat, h, Option.toList_none, List.append_nil]

theorem names_concat_of_none (h : x.stored? = none) : (log ++ [x]).names = log.names := by
  rw [names, stored_concat_of_none h, names]

theorem latest?_concat_of_none (h : x.stored? = none) : (log ++ [x]).latest? = log.latest? := by
  funext id
  rw [latest?, stored_concat_of_none h, latest?]

theorem nodup_names (log : Journal) : log.names.Nodup := by
  induction log using List.reverseRecOn with
  | nil => exact List.nodup_nil
  | append_singleton log x ih =>
    cases hstored : x.stored? with
    | none => rwa [names_concat_of_none hstored]
    | some c =>
      rw [names_concat hstored]
      split
      · exact ih
      · rename_i hc
        rw [← List.concat_eq_append]
        exact ih.concat hc

theorem Due.counter? (h : log.Due x) : x.counter? = if x.succeeds then some (log.successes + 1) else none := by
  cases x with
  | imported | scripted => rfl
  | created fresh userName challenge result =>
    cases hfail : log.failure? with
    | some e =>
      simp only [Due, hfail] at h
      subst h
      rfl
    | none =>
      simp only [Due, hfail] at h
      obtain ⟨credential, rfl, h⟩ := h
      exact h.counter
  | requested id challenge result =>
    cases hfail : log.failure? with
    | some e =>
      simp only [Due, hfail] at h
      subst h
      rfl
    | none =>
      cases hdue : log.due? id with
      | none =>
        simp only [Due, hfail, hdue] at h
        subst h
        rfl
      | some c =>
        simp only [Due, hfail, hdue] at h
        obtain ⟨assertion, rfl, h⟩ := h
        exact h.counter

theorem regular_concat_iff : (log ++ [x]).Regular ↔ log.Regular ∧ log.Due x := by
  constructor
  · intro h
    refine ⟨fun k y hk => ?_, ?_⟩
    · have hlt : k < log.length := (List.getElem?_eq_some_iff.mp hk).1
      have hdue := h k y (by rw [List.getElem?_append_left hlt, hk])
      rwa [List.take_append_of_le_length (Nat.le_of_lt hlt)] at hdue
    · have hdue := h log.length x List.getElem?_concat_length
      rwa [List.take_left] at hdue
  · rintro ⟨h, hx⟩ k y hk
    rcases Nat.lt_trichotomy k log.length with hlt | rfl | hlt
    · rw [List.getElem?_append_left hlt] at hk
      rw [List.take_append_of_le_length (Nat.le_of_lt hlt)]
      exact h k y hk
    · rw [List.getElem?_concat_length] at hk
      cases hk
      rwa [List.take_left]
    · rw [List.getElem?_eq_none (by rw [List.length_append, List.length_singleton]; omega)] at hk
      cases hk

/-- The prompts that succeed carry the numbers from one on. -/
theorem Regular.counters (h : log.Regular) : log.filterMap Act.counter? = List.range' 1 log.successes := by
  induction log using List.reverseRecOn with
  | nil => rfl
  | append_singleton log x ih =>
    obtain ⟨hlog, hx⟩ := regular_concat_iff.mp h
    rw [List.filterMap_append, ih hlog, successes_concat]
    cases hsucceeds : x.succeeds with
    | false => simp [hx.counter?, hsucceeds]
    | true => simp [hx.counter?, hsucceeds, List.range'_1_concat, Nat.add_comm 1]

end Journal

/-! ### One more key -/

theorem map_store (c : StoredCredential) (cs : List StoredCredential) : (c.store cs).map (·.id) =
    if c.id ∈ cs.map (·.id) then cs.map (·.id) else cs.map (·.id) ++ [c.id] := by
  induction cs with
  | nil => rfl
  | cons d ds ih =>
    rw [StoredCredential.store]
    by_cases h : d.id = c.id
    · simp [h]
    · rw [if_neg h, List.map_cons, ih]
      by_cases hmem : c.id ∈ ds.map (·.id)
      · simp [hmem]
      · simp [hmem, Ne.symm h]

theorem find?_store (c : StoredCredential) (cs : List StoredCredential) (id : String) :
    (c.store cs).find? (·.id = id) = if c.id = id then some c else cs.find? (·.id = id) := by
  induction cs with
  | nil => simp [StoredCredential.store]
  | cons d ds ih =>
    rw [StoredCredential.store]
    by_cases h : d.id = c.id
    · by_cases hc : c.id = id
      · simp [h, hc]
      · simp [h, hc]
    · rw [if_neg h, List.find?_cons, ih, List.find?_cons]
      by_cases hc : c.id = id
      · have hd : d.id ≠ id := fun hd => h (hd.trans hc.symm)
        simp [hc, hd]
      · simp [hc]

theorem head?_credentials (a : Authenticator) : a.credentials.head? = a.ids.head?.bind a.find? := by
  unfold ids find?
  cases a.credentials with
  | nil => rfl
  | cons c cs => simp

/-! ### Keys and their order -/

/-- The keys by their names, and the names in the order in which they first came. -/
@[ext]
structure Keyring where
  keys : String → Option StoredCredential
  order : List String

namespace Keyring

def empty : Keyring := ⟨fun _ => none, []⟩

/-- Keeps a key under its name. A name that is new goes to the end. -/
def remember (k : Keyring) (c : StoredCredential) : Keyring where
  keys := Function.update k.keys c.id (some c)
  order := if (k.keys c.id).isNone then k.order ++ [c.id] else k.order

/-- The key of a name, or of the name that came first. -/
def choose (k : Keyring) : Option String → Option StoredCredential
  | some id => k.keys id
  | none => k.order.head?.bind k.keys

end Keyring

/-- The keys of an authenticator apart from their order: its one list stands for both. -/
def keyring (a : Authenticator) : Keyring := ⟨a.find?, a.ids⟩

theorem find?_isNone_iff {a : Authenticator} {id : String} : (a.find? id).isNone ↔ id ∉ a.ids := by
  simp [find?, ids]

theorem keyring_store {a b : Authenticator} {c : StoredCredential} (h : b.credentials = c.store a.credentials) :
    b.keyring = a.keyring.remember c := by
  refine Keyring.ext (funext fun id => ?_) ?_
  · change b.find? id = Function.update a.find? c.id (some c) id
    by_cases hid : id = c.id
    · rw [hid, Function.update_self, find?, h, find?_store, if_pos rfl]
    · rw [Function.update_of_ne hid, find?, h, find?_store, if_neg (Ne.symm hid), find?]
  · simp only [keyring, Keyring.remember, find?_isNone_iff, ids, h, map_store, ite_not]

theorem choose_keyring (a : Authenticator) : a.keyring.choose = a.choose := by
  funext id
  cases id with
  | some id => rfl
  | none => exact (head?_credentials a).symm

/-! ### One more call -/

section
variable {a b : Authenticator} {x : Act} {log : Journal} {e : AuthenticatorError}

/-- What an act does to an authenticator. -/
structure Does (a : Authenticator) (x : Act) (b : Authenticator) : Prop where
  credentials : b.credentials = x.stored?.elim a.credentials (·.store a.credentials)
  counter : b.counter = a.counter + x.succeeds.toNat
  failNext : b.failNext = if x.imports then a.failNext else x.scripted?

theorem length_attestedCredential (fresh : Fresh) : (attestedCredential fresh).length < 2 ^ 63 := by
  have hkey : (coseKey fresh.key.publicPoint).encode.length = 77 := by
    simp [coseKey, Cbor.encode, Cbor.encodeEntries, Cbor.head, BigEndian.length_ofNat]
  simp only [attestedCredential, List.length_append, List.length_replicate, BigEndian.length_ofNat,
    fresh.rawId.size, hkey]
  decide

/-- A creation takes the scripted failure, or makes a credential. -/
theorem create_cases (a : Authenticator) (userName : String) (challenge : Bytes) :
    (∃ e, a.failNext = some e ∧ a.create userName challenge = (.error e, { a with failNext := none })) ∨
    (∃ credential, a.failNext = none ∧ a.create userName challenge = (.ok credential,
      { a.importKey credential.id (a.supply a.made).key (Text.utf8 userName.toList) with
        counter := a.counter + 1, made := a.made + 1 }) ∧
      (a.counter + 1 < 2 ^ 32 → Journal.Creates (a.counter + 1) (a.supply a.made) credential)) := by
  cases hfail : a.failNext with
  | some e => exact Or.inl ⟨e, rfl, by rw [create, hfail]⟩
  | none =>
    refine Or.inr ⟨_, rfl, by rw [create, hfail], fun hcounter => ⟨rfl, rfl, ?_⟩⟩
    have hread := AuthenticatorData.ofAttestation?_encode (d := a.nextData
      (userFlags ||| AuthenticatorData.attested) (attestedCredential (a.supply a.made))) (Sha256.length_digest _)
      hcounter (length_attestedCredential _)
    rw [hread, Option.map_some, nextData]

/-- A request takes the scripted failure, or there is no credential for it, or the credential answers. -/
theorem request_cases (a : Authenticator) (id : Option String) (challenge : Bytes) :
    (∃ e, a.failNext = some e ∧ a.request id challenge = (.error e, { a with failNext := none })) ∨
    (a.failNext = none ∧ a.choose id = none ∧ a.request id challenge = (.error .noCredential, a)) ∨
    (∃ c, a.failNext = none ∧ a.choose id = some c ∧
      a.request id challenge = (.ok (a.respond c challenge), { a with counter := a.counter + 1 }) ∧
      (a.counter + 1 < 2 ^ 32 → Journal.Asserts (a.counter + 1) c (a.respond c challenge))) := by
  cases hfail : a.failNext with
  | some e => exact Or.inl ⟨e, rfl, by rw [request, hfail]⟩
  | none =>
    cases hid : a.choose id with
    | none => exact Or.inr (Or.inl ⟨rfl, rfl, by rw [request, hfail, hid]⟩)
    | some c =>
      refine Or.inr (Or.inr ⟨c, rfl, rfl, by rw [request, hfail, hid], fun hcounter => ⟨rfl, rfl, rfl, ?_⟩⟩)
      have hread := AuthenticatorData.ofBytes_bytes (d := a.nextData userFlags []) (Sha256.length_digest _) hcounter
      rw [respond, hread]
      rfl

theorem does_call (a : Authenticator) (c : Call) : a.Does (a.call c).1 (a.call c).2 := by
  cases c with
  | importKey c => exact ⟨rfl, rfl, rfl⟩
  | scriptFailure e => exact ⟨rfl, rfl, rfl⟩
  | create userName challenge =>
    obtain ⟨e, -, h⟩ | ⟨credential, hfail, h, -⟩ := a.create_cases userName challenge
    · simp only [call, h]
      exact ⟨rfl, rfl, rfl⟩
    · simp only [call, h]
      exact ⟨rfl, rfl, hfail⟩
  | request id challenge =>
    obtain ⟨e, -, h⟩ | ⟨hfail, -, h⟩ | ⟨c, hfail, -, h, -⟩ := a.request_cases id challenge
    · simp only [call, h]
      exact ⟨rfl, rfl, rfl⟩
    · simp only [call, h]
      exact ⟨rfl, rfl, hfail⟩
    · simp only [call, h]
      exact ⟨rfl, rfl, hfail⟩

/-- A call keeps on the ring the key that it stores. -/
theorem Does.keyring_eq (h : a.Does x b) : b.keyring = x.stored?.toList.foldl Keyring.remember a.keyring := by
  have hcredentials := h.credentials
  cases hstored : x.stored? with
  | none =>
    rw [hstored, Option.elim_none] at hcredentials
    unfold keyring find? ids
    rw [hcredentials]
    rfl
  | some c =>
    rw [hstored, Option.elim_some] at hcredentials
    exact keyring_store hcredentials

/-- A prompt that fails takes the scripted failure, and changes nothing else. -/
theorem eq_of_answer_error {p : Prompt} (h : a.answer p = (.error e, b)) : b = { a with failNext := none } := by
  cases p with
  | create userName challenge =>
    obtain ⟨e', -, hcreate⟩ | ⟨credential, -, hcreate, -⟩ := a.create_cases userName challenge
    · exact (Prod.mk.inj (hcreate.symm.trans h)).2.symm
    · cases (Prod.mk.inj (hcreate.symm.trans h)).1
  | use id challenge =>
    obtain ⟨e', -, hrequest⟩ | ⟨hfail, -, hrequest⟩ | ⟨c, -, -, hrequest, -⟩ := a.request_cases id challenge
    · exact (Prod.mk.inj (hrequest.symm.trans h)).2.symm
    · rw [← (Prod.mk.inj (hrequest.symm.trans h)).2, ← hfail]
    · cases (Prod.mk.inj (hrequest.symm.trans h)).1

theorem Journal.Describes.concat (h : log.Describes a) (hx : a.Does x b) : (log ++ [x]).Describes b := by
  have hfail : b.failNext = (log ++ [x]).failure? := by
    rw [failure?_concat, hx.failNext, h.failNext]
  have hcounter : b.counter = (log ++ [x]).successes := by
    rw [successes_concat, hx.counter, h.counter]
  have hcredentials := hx.credentials
  cases hstored : x.stored? with
  | none =>
    rw [hstored, Option.elim_none] at hcredentials
    refine ⟨?_, fun id => ?_, hcounter, hfail⟩
    · rw [names_concat_of_none hstored, ← h.ids, Authenticator.ids, Authenticator.ids, hcredentials]
    · rw [latest?_concat_of_none hstored, ← h.find, find?, find?, hcredentials]
  | some c =>
    rw [hstored, Option.elim_some] at hcredentials
    refine ⟨?_, fun id => ?_, hcounter, hfail⟩
    · rw [names_concat hstored, ← h.ids, Authenticator.ids, Authenticator.ids, hcredentials, map_store]
    · rw [latest?_concat hstored, ← h.find, find?, find?, hcredentials, find?_store]

theorem Journal.Describes.choose (h : log.Describes a) (id : Option String) : a.choose id = log.due? id := by
  cases id with
  | some id => exact h.find id
  | none =>
    have hfind : a.find? = log.latest? := funext h.find
    rw [Authenticator.choose, head?_credentials, h.ids, hfind, due?]

/-- What comes of a call is what has to come of it. -/
theorem Journal.Describes.due (h : log.Describes a) (c : Call)
    (few : (log ++ [(a.call c).1]).successes < 2 ^ 32) : log.Due (a.call c).1 := by
  have hlog := h.failNext
  rw [successes_concat] at few
  cases c with
  | importKey | scriptFailure => trivial
  | create userName challenge =>
    obtain ⟨e, hfail, hcreate⟩ | ⟨credential, hfail, hcreate, hcreates⟩ := a.create_cases userName challenge
    · rw [hfail] at hlog
      simp only [call, hcreate, Due, ← hlog]
    · rw [hfail] at hlog
      rw [h.counter] at hcreates
      simp only [call, hcreate, Due, ← hlog] at few ⊢
      exact ⟨credential, rfl, hcreates few⟩
  | request id challenge =>
    have hdue := h.choose id
    obtain ⟨e, hfail, hrequest⟩ | ⟨hfail, hid, hrequest⟩ | ⟨c, hfail, hid, hrequest, hasserts⟩ :=
      a.request_cases id challenge
    · rw [hfail] at hlog
      simp only [call, hrequest, Due, ← hlog]
    · rw [hfail] at hlog
      rw [hid] at hdue
      simp only [call, hrequest, Due, ← hlog, ← hdue]
    · rw [hfail] at hlog
      rw [hid] at hdue
      rw [h.counter] at hasserts
      simp only [call, hrequest, Due, ← hlog, ← hdue] at few ⊢
      exact ⟨_, rfl, hasserts few⟩

end

/-! ### Runs -/

theorem run_concat (a : Authenticator) (calls : List Call) (c : Call) : a.run (calls ++ [c]) =
    ((a.run calls).1 ++ [((a.run calls).2.call c).1], ((a.run calls).2.call c).2) := by
  rw [run, List.foldl_append]
  rfl

theorem describes_run (rpId : String) (origin : Option String) (supply : Nat → Fresh) (calls : List Call) :
    ((initial rpId origin supply).run calls).1.Describes ((initial rpId origin supply).run calls).2 := by
  induction calls using List.reverseRecOn with
  | nil => exact ⟨rfl, fun _ => rfl, rfl, rfl⟩
  | append_singleton calls c ih =>
    -- A journal grows at its end, so the last call is the one more step.
    rw [run_concat]
    exact ih.concat (does_call _ c)

/-- After any calls the list of an authenticator is the ring that kept all keys of the journal, one after the other. -/
theorem keyring_run (rpId : String) (origin : Option String) (supply : Nat → Fresh) (calls : List Call) :
    ((initial rpId origin supply).run calls).2.keyring =
      ((initial rpId origin supply).run calls).1.stored.foldl Keyring.remember .empty := by
  induction calls using List.reverseRecOn with
  | nil => rfl
  | append_singleton calls c ih =>
    rw [run_concat, (does_call _ c).keyring_eq, ih, Journal.stored_concat, List.foldl_append]

theorem regular_run (rpId : String) (origin : Option String) (supply : Nat → Fresh) (calls : List Call)
    (few : ((initial rpId origin supply).run calls).1.successes < 2 ^ 32) :
    ((initial rpId origin supply).run calls).1.Regular := by
  induction calls using List.reverseRecOn with
  | nil =>
    intro k x hk
    cases hk
  | append_singleton calls c ih =>
    rw [run_concat] at few ⊢
    -- No act takes a success back, so there were few before it.
    have fewer := few
    rw [Journal.successes_concat] at fewer
    exact Journal.regular_concat_iff.mpr ⟨ih (by omega), (describes_run rpId origin supply calls).due c few⟩

theorem successes_run_le (a : Authenticator) (calls : List Call) : (a.run calls).1.successes ≤ calls.length := by
  have hlength : (a.run calls).1.length = calls.length := by
    induction calls using List.reverseRecOn with
    | nil => rfl
    | append_singleton calls c ih => rw [run_concat, List.length_append, List.length_append, ih]; rfl
  rw [← hlength]
  exact List.countP_le_length

/-- A journal accounts for an authenticator: all that the authenticator has and does is told by it. -/
structure Journal.Accounts (log : Journal) (a : Authenticator) : Prop extends log.Describes a where
  once : a.ids.Nodup
  keyed : ∀ id, id ∈ a.ids ↔ ∃ c, a.find? id = some c
  choose : ∀ id, a.choose id = log.due? id
  regular : log.Regular
  counters : log.filterMap Act.counter? = List.range' 1 log.successes
  increase : (log.filterMap Act.counter?).Pairwise (· < ·)
  /-- A key that comes again under its name stands in the place of the former one. -/
  replaces : ∀ c : StoredCredential, c.id ∈ a.ids → (a.importKey c.id c.key c.userHandle).ids = a.ids ∧
    ∀ id, (a.importKey c.id c.key c.userHandle).find? id = if c.id = id then some c else a.find? id
  failing : ∀ p e b, a.answer p = (.error e, b) → b = { a with failNext := none }

/-- After any calls the journal of an authenticator accounts for it, as long as its counter has not come round. -/
theorem accounts_run (rpId : String) (origin : Option String) (supply : Nat → Fresh) (calls : List Call)
    (few : ((initial rpId origin supply).run calls).1.successes < 2 ^ 32) :
    ((initial rpId origin supply).run calls).1.Accounts ((initial rpId origin supply).run calls).2 := by
  have describes := describes_run rpId origin supply calls
  have regular := regular_run rpId origin supply calls few
  generalize (initial rpId origin supply).run calls = result at describes regular
  obtain ⟨log, a⟩ := result
  dsimp only at describes regular ⊢
  exact {
    toDescribes := describes
    once := describes.ids ▸ log.nodup_names
    keyed := fun id => by rw [← Option.isSome_iff_exists, find?, List.find?_isSome]; simp [ids]
    choose := describes.choose
    regular := regular
    counters := regular.counters
    increase := regular.counters ▸ List.pairwise_lt_range' 1
    replaces := fun c hc => ⟨(map_store c a.credentials).trans (if_pos hc), find?_store c a.credentials⟩
    failing := fun p e b => eq_of_answer_error }

/-- A key comes again, a failure is scripted for a creation, a credential is made, and prompts ask for one key, for
    any and for an unknown one. -/
theorem accounts_run_again :
    let one : SigningKey := ⟨1, by decide, by decide⟩
    let two : SigningKey := ⟨2, by decide, by decide⟩
    let a := initial "safeliza.test" none fun _ => ⟨two, List.replicate 16 0, rfl⟩
    let calls : List Call := [.importKey ⟨"b", one, [1]⟩, .importKey ⟨"a", one, [2]⟩, .importKey ⟨"b", two, [3]⟩,
      .scriptFailure .cancelled, .create "agent" [], .create "agent" [], .request (some "a") [], .request none [],
      .request (some "c") []]
    (a.run calls).1.successes < 2 ^ 32 ∧ (a.run calls).1.Accounts (a.run calls).2 ∧
      (a.run calls).2.ids = ["b", "a", "AAAAAAAAAAAAAAAAAAAAAA"] ∧
      (a.run calls).1.due? none = some ⟨"b", two, [3]⟩ ∧ (a.run calls).1.due? (some "c") = none ∧
      (a.run calls).1.successes = 3 := by
  intro one two a calls
  have few : (a.run calls).1.successes < 2 ^ 32 := Nat.lt_of_le_of_lt (successes_run_le a calls) (by decide)
  exact ⟨few, accounts_run _ _ _ _ few, by decide +kernel, rfl, rfl, rfl⟩

end PasskeySession.Authenticator
