import Mathlib.Tactic
import Rpi3Device.TransitionSystem

/-!
# The fast path of the software gatekeeper

`SoftGateKeeper::DoVerify` keeps a salted SHA-256 digest of a password for each
user id and answers from it before it asks `GateKeeper::DoVerify`. The scrypt
signature, SHA-256 and the verifier of the base class lie outside the sources:
they are parameters. A call brings the handle, the password and the random
number that `GetRandom` would return during it.
-/

namespace Rpi3Device.Gatekeeper
open TransitionSystem

structure PasswordHandle where
  userId : UInt64
  salt : UInt64
  signature : List UInt8
deriving DecidableEq

abbrev Password := List UInt8

structure FastHash (D : Type*) where
  salt : UInt64
  digest : D

structure VerifyCall where
  handle : PasswordHandle
  password : Password
  random : UInt64

def SIGNATURE_LENGTH_BYTES : UInt32 := 32
def scryptN : UInt64 := 16384
def scryptR : UInt32 := 8
def scryptP : UInt32 := 1

abbrev Scrypt := Password → List UInt8 → UInt64 → UInt32 → UInt32 → UInt32 → List UInt8

def saltBytes (salt : UInt64) : List UInt8 :=
  (List.range 8).map fun i => (salt >>> (8 * i).toUInt64).toUInt8

def computePasswordSignature (crypto_scrypt : Scrypt) (password : Password) (salt : UInt64) :
    List UInt8 :=
  crypto_scrypt password (saltBytes salt) scryptN scryptR scryptP SIGNATURE_LENGTH_BYTES

section FastPath
variable {D : Type*} [DecidableEq D] (sha256 : List UInt8 → D)
  (baseDoVerify : PasswordHandle → Password → Bool)

def computeFastHash (password : Password) (salt : UInt64) : FastHash D where
  salt := salt
  digest := sha256 (saltBytes salt ++ password)

def verifyFast (fastHash : FastHash D) (password : Password) : Bool :=
  decide ((computeFastHash sha256 password fastHash.salt).digest = fastHash.digest)

abbrev FastHashMap (D : Type*) := UInt64 → Option (FastHash D)

def doVerify (fastHashMap : FastHashMap D) (call : VerifyCall) : Bool × FastHashMap D :=
  let userId := call.handle.userId
  if (fastHashMap userId).any (verifyFast sha256 · call.password) = true then
    (true, fastHashMap)
  else if baseDoVerify call.handle call.password = true then
    (true, Function.update fastHashMap userId
      (some (computeFastHash sha256 call.password call.random)))
  else (false, fastHashMap)

def doVerifyAll (calls : List VerifyCall) : List Bool × FastHashMap D :=
  calls.foldl (fun (answers, fastHashMap) call =>
    let (answer, fastHashMap') := doVerify sha256 baseDoVerify fastHashMap call
    (answers ++ [answer], fastHashMap')) ([], fun _ => none)

theorem doVerifyAll_snoc (calls : List VerifyCall) (call : VerifyCall) :
    doVerifyAll sha256 baseDoVerify (calls ++ [call]) =
      ((doVerifyAll sha256 baseDoVerify calls).1 ++
          [(doVerify sha256 baseDoVerify (doVerifyAll sha256 baseDoVerify calls).2 call).1],
        (doVerify sha256 baseDoVerify (doVerifyAll sha256 baseDoVerify calls).2 call).2) := by
  simp only [doVerifyAll, List.foldl_append, List.foldl_cons, List.foldl_nil]

end FastPath

def lastVerified (verifies : PasswordHandle → Password → Bool) (calls : List VerifyCall)
    (userId : UInt64) : Option Password :=
  ((calls.filter fun c =>
    c.handle.userId = userId ∧ verifies c.handle c.password = true).getLast?).map
    VerifyCall.password

theorem lastVerified_snoc (verifies : PasswordHandle → Password → Bool) (calls : List VerifyCall)
    (call : VerifyCall) :
    lastVerified verifies (calls ++ [call]) =
      if verifies call.handle call.password = true then
        Function.update (lastVerified verifies calls) call.handle.userId (some call.password)
      else lastVerified verifies calls := by
  funext userId
  by_cases hv : verifies call.handle call.password = true
  · by_cases hu : call.handle.userId = userId
    · subst hu
      simp [lastVerified, hv]
    · simp [lastVerified, hv, hu, Function.update_of_ne (Ne.symm hu)]
  · simp [lastVerified, hv]

theorem mem_of_lastVerified {verifies : PasswordHandle → Password → Bool}
    {calls : List VerifyCall} {userId : UInt64} {password : Password}
    (h : lastVerified verifies calls userId = some password) :
    password ∈ calls.map VerifyCall.password := by
  obtain ⟨c, hc, rfl⟩ := Option.map_eq_some_iff.mp h
  have hmem := List.mem_of_getLast? hc
  exact List.mem_map_of_mem (List.mem_of_mem_filter hmem)

section Agreement
variable {D : Type*} [DecidableEq D] {sha256 : List UInt8 → D}
  {baseDoVerify : PasswordHandle → Password → Bool}

def hashedInputs (calls : List VerifyCall) : Set (List UInt8) :=
  {input | ∃ salt ∈ calls.map VerifyCall.random, ∃ password ∈ calls.map VerifyCall.password,
    input = saltBytes salt ++ password}

theorem hashedInputs_mono {calls calls' : List VerifyCall} (h : calls ⊆ calls') :
    hashedInputs calls ⊆ hashedInputs calls' := by
  intro input hparts
  obtain ⟨salt, hsalt, password, hpassword, rfl⟩ := hparts
  exact ⟨salt, List.map_subset _ h hsalt, password, List.map_subset _ h hpassword, rfl⟩

/-- The map holds a digest of the last password verified for each user id, and nothing else. -/
def CachesLastVerified (sha256 : List UInt8 → D)
    (baseDoVerify : PasswordHandle → Password → Bool) (calls : List VerifyCall)
    (fastHashMap : FastHashMap D) : Prop :=
  ∀ userId, match lastVerified baseDoVerify calls userId with
    | none => fastHashMap userId = none
    | some password => ∃ salt ∈ calls.map VerifyCall.random,
        fastHashMap userId = some (computeFastHash sha256 password salt)

theorem verifyFast_computeFastHash {inputs : Set (List UInt8)} (hinj : Set.InjOn sha256 inputs)
    {salt : UInt64} {password cached : Password} (hp : saltBytes salt ++ password ∈ inputs)
    (hc : saltBytes salt ++ cached ∈ inputs) :
    verifyFast sha256 (computeFastHash sha256 cached salt) password = true ↔
      password = cached := by
  constructor
  · intro h
    exact List.append_cancel_left (hinj hp hc (of_decide_eq_true h))
  · intro heq
    obtain rfl := heq
    exact decide_eq_true rfl

omit [DecidableEq D] in
theorem CachesLastVerified.entry_snoc {calls : List VerifyCall} {fastHashMap : FastHashMap D}
    (hcache : CachesLastVerified sha256 baseDoVerify calls fastHashMap) (call : VerifyCall)
    (userId : UInt64) :
    match lastVerified baseDoVerify calls userId with
    | none => fastHashMap userId = none
    | some password => ∃ salt ∈ (calls ++ [call]).map VerifyCall.random,
        fastHashMap userId = some (computeFastHash sha256 password salt) := by
  have hentry := hcache userId
  cases hlast : lastVerified baseDoVerify calls userId with
  | none =>
    simp only [hlast] at hentry
    exact hentry
  | some password =>
    simp only [hlast] at hentry
    obtain ⟨salt, hsalt, hmap⟩ := hentry
    refine ⟨salt, ?_, hmap⟩
    rw [List.map_append]
    exact List.mem_append_left _ hsalt

omit [DecidableEq D] in
theorem CachesLastVerified.snoc_of_eq {calls : List VerifyCall} {fastHashMap : FastHashMap D}
    (hcache : CachesLastVerified sha256 baseDoVerify calls fastHashMap) {call : VerifyCall}
    (h : lastVerified baseDoVerify (calls ++ [call]) = lastVerified baseDoVerify calls) :
    CachesLastVerified sha256 baseDoVerify (calls ++ [call]) fastHashMap := by
  intro userId
  rw [h]
  exact hcache.entry_snoc call userId

theorem fast_hit_iff {calls : List VerifyCall} {call : VerifyCall} {fastHashMap : FastHashMap D}
    (hinj : Set.InjOn sha256 (hashedInputs (calls ++ [call])))
    (hcache : CachesLastVerified sha256 baseDoVerify calls fastHashMap) :
    (fastHashMap call.handle.userId).any (verifyFast sha256 · call.password) = true ↔
      lastVerified baseDoVerify calls call.handle.userId = some call.password := by
  have hentry := hcache call.handle.userId
  cases hlast : lastVerified baseDoVerify calls call.handle.userId with
  | none =>
    simp only [hlast] at hentry
    simp [hentry]
  | some cached =>
    simp only [hlast] at hentry
    obtain ⟨salt, hsalt, hmap⟩ := hentry
    have hcached := mem_of_lastVerified hlast
    have hsalt' : salt ∈ (calls ++ [call]).map VerifyCall.random := by
      rw [List.map_append]
      exact List.mem_append_left _ hsalt
    have hcached' : cached ∈ (calls ++ [call]).map VerifyCall.password := by
      rw [List.map_append]
      exact List.mem_append_left _ hcached
    have hnew : call.password ∈ (calls ++ [call]).map VerifyCall.password := by simp
    rw [hmap, Option.any_some,
      verifyFast_computeFastHash hinj ⟨salt, hsalt', _, hnew, rfl⟩ ⟨salt, hsalt', _, hcached', rfl⟩]
    simp only [Option.some.injEq]
    exact eq_comm

theorem doVerify_spec {calls : List VerifyCall} {call : VerifyCall} {fastHashMap : FastHashMap D}
    (hinj : Set.InjOn sha256 (hashedInputs (calls ++ [call])))
    (hcache : CachesLastVerified sha256 baseDoVerify calls fastHashMap) :
    ((doVerify sha256 baseDoVerify fastHashMap call).1 = true ↔
      lastVerified baseDoVerify calls call.handle.userId = some call.password ∨
        baseDoVerify call.handle call.password = true) ∧
    CachesLastVerified sha256 baseDoVerify (calls ++ [call])
      (doVerify sha256 baseDoVerify fastHashMap call).2 := by
  have hhit := fast_hit_iff hinj hcache
  by_cases hfast : (fastHashMap call.handle.userId).any (verifyFast sha256 · call.password) = true
  · have hlast := hhit.mp hfast
    have hsame : lastVerified baseDoVerify (calls ++ [call]) = lastVerified baseDoVerify calls := by
      rw [lastVerified_snoc, ← hlast, Function.update_eq_self, ite_self]
    simp only [doVerify, hfast, ↓reduceIte]
    exact ⟨by simp [hlast], hcache.snoc_of_eq hsame⟩
  · have hlast := mt hhit.mpr hfast
    by_cases hbase : baseDoVerify call.handle call.password = true
    · simp only [doVerify, hfast, hbase, ↓reduceIte, Bool.false_eq_true]
      refine ⟨by simp, fun userId => ?_⟩
      rw [lastVerified_snoc, if_pos hbase]
      by_cases hu : userId = call.handle.userId
      · subst hu
        simp only [Function.update_self]
        exact ⟨call.random, by simp, rfl⟩
      · simp only [Function.update_of_ne hu]
        exact hcache.entry_snoc call userId
    · simp only [doVerify, hfast, hbase, ↓reduceIte, Bool.false_eq_true]
      refine ⟨by simp [hlast], hcache.snoc_of_eq ?_⟩
      rw [lastVerified_snoc, if_neg hbase]

theorem doVerifyAll_caches {calls : List VerifyCall}
    (hinj : Set.InjOn sha256 (hashedInputs calls)) :
    CachesLastVerified sha256 baseDoVerify calls (doVerifyAll sha256 baseDoVerify calls).2 := by
  induction calls using List.reverseRecOn with
  | nil =>
    intro userId
    rfl
  | append_singleton calls call ih =>
    have hpre := hinj.mono (hashedInputs_mono (List.subset_append_left calls [call]))
    rw [doVerifyAll_snoc]
    exact (doVerify_spec hinj (ih hpre)).2

end Agreement

def signatureMatches (crypto_scrypt : Scrypt) (handle : PasswordHandle) (password : Password) :
    Bool :=
  decide (handle.signature = computePasswordSignature crypto_scrypt password handle.salt)

/-- No call presents the password last verified for its user id with a handle it does not match. -/
def NoStalePassword (crypto_scrypt : Scrypt) (calls : List VerifyCall) : Prop :=
  Justified (fun earlier call =>
    signatureMatches crypto_scrypt call.handle call.password = false →
      lastVerified (signatureMatches crypto_scrypt) earlier call.handle.userId ≠
        some call.password) calls

theorem doVerifyAll_agrees_iff {D : Type*} [DecidableEq D] (crypto_scrypt : Scrypt)
    (sha256 : List UInt8 → D) (baseDoVerify : PasswordHandle → Password → Bool)
    (hbase : ∀ handle password, baseDoVerify handle password = true ↔
      handle.signature = computePasswordSignature crypto_scrypt password handle.salt)
    (calls : List VerifyCall) (hinj : Set.InjOn sha256 (hashedInputs calls)) :
    (doVerifyAll sha256 baseDoVerify calls).1 =
        calls.map (fun call => baseDoVerify call.handle call.password) ↔
      NoStalePassword crypto_scrypt calls := by
  obtain rfl : baseDoVerify = signatureMatches crypto_scrypt := by
    funext handle password
    rw [Bool.eq_iff_iff, hbase, signatureMatches, decide_eq_true_iff]
  induction calls using List.reverseRecOn with
  | nil => exact ⟨fun _ => justified_nil _, fun _ => rfl⟩
  | append_singleton calls call ih =>
    have hpre := hinj.mono (hashedInputs_mono (List.subset_append_left calls [call]))
    have hcaches : CachesLastVerified sha256 (signatureMatches crypto_scrypt) calls _ :=
      doVerifyAll_caches hpre
    have hanswer := (doVerify_spec hinj hcaches).1
    have hcall : (doVerify sha256 (signatureMatches crypto_scrypt)
          (doVerifyAll sha256 (signatureMatches crypto_scrypt) calls).2 call).1 =
          signatureMatches crypto_scrypt call.handle call.password ↔
        (signatureMatches crypto_scrypt call.handle call.password = false →
          lastVerified (signatureMatches crypto_scrypt) calls call.handle.userId ≠
            some call.password) := by
      rw [Bool.eq_iff_iff, hanswer]
      cases signatureMatches crypto_scrypt call.handle call.password with
      | false => simp
      | true => simp
    rw [doVerifyAll_snoc, List.map_append, List.map_singleton, List.append_singleton_inj, ih hpre,
      hcall]
    exact justified_snoc.symm

def fixed32 (input : List UInt8) : List UInt8 :=
  (input ++ List.replicate 32 0).take 32

def paddedScrypt : Scrypt := fun password salt _ _ _ _ => fixed32 (salt ++ password)

def enrolled (userId salt : UInt64) (password : Password) : PasswordHandle where
  userId := userId
  salt := salt
  signature := computePasswordSignature paddedScrypt password salt

def passwordChanged : List VerifyCall :=
  [⟨enrolled 7 1 [1, 2, 3, 4], [1, 2, 3, 4], 40⟩, ⟨enrolled 7 2 [5, 6, 7, 8], [1, 2, 3, 4], 41⟩]

theorem fixed32_injOn_hashedInputs : Set.InjOn fixed32 (hashedInputs passwordChanged) := by
  intro _ hparts _ hgiven h
  obtain ⟨s, hs, p, hp, rfl⟩ := hparts
  obtain ⟨t, ht, q, hq, rfl⟩ := hgiven
  simp only [passwordChanged, List.map_cons, List.map_nil, List.mem_cons, List.not_mem_nil,
    or_false, or_self] at hs hp ht hq
  subst hp hq
  rcases hs with rfl | rfl <;> rcases ht with rfl | rfl
  · rfl
  · exact absurd h (by decide)
  · exact absurd h (by decide)
  · rfl

theorem doVerifyAll_agrees_iff_passwordChanged :
    (doVerifyAll fixed32 (signatureMatches paddedScrypt) passwordChanged).1 =
        passwordChanged.map (fun call => signatureMatches paddedScrypt call.handle call.password) ↔
      NoStalePassword paddedScrypt passwordChanged :=
  doVerifyAll_agrees_iff paddedScrypt fixed32 (signatureMatches paddedScrypt)
    (fun _ _ => decide_eq_true_iff) passwordChanged fixed32_injOn_hashedInputs

theorem doVerifyAll_accepts_stale_password :
    ¬ ∀ (crypto_scrypt : Scrypt) (sha256 : List UInt8 → List UInt8)
        (baseDoVerify : PasswordHandle → Password → Bool),
      (∀ handle password, baseDoVerify handle password = true ↔
        handle.signature = computePasswordSignature crypto_scrypt password handle.salt) →
      ∀ calls : List VerifyCall, Set.InjOn sha256 (hashedInputs calls) →
        (doVerifyAll sha256 baseDoVerify calls).1 =
          calls.map (fun call => baseDoVerify call.handle call.password) := by
  intro h
  have hagree := h paddedScrypt fixed32 (signatureMatches paddedScrypt)
    (fun _ _ => decide_eq_true_iff) passwordChanged fixed32_injOn_hashedInputs
  exact absurd hagree (by decide +kernel)

end Rpi3Device.Gatekeeper
