import HostPanel.Access.Startup

namespace HostPanel.Model

open HostPanel.Lib

/-- What the cipher and base64 are relied on for: base64 is read back as it was
written and has no dot, and the cipher is undone with its own tag, of 16 bytes,
and makes the text no longer. -/
structure Cipher.Lawful (c : Cipher) : Prop where
  fromBase64_toBase64 : ∀ bytes, c.fromBase64 (c.toBase64 bytes) = bytes
  dot_notMem : ∀ bytes, '.' ∉ (c.toBase64 bytes).toList
  toBase64_nil : c.toBase64 [] = ""
  decipher_encipher : ∀ key iv plaintext, key.length = 32 → iv.length = 12 →
    c.decipher key iv (c.encipher key iv plaintext).2 (c.encipher key iv plaintext).1 = some plaintext
  length_encrypted : ∀ key iv plaintext, key.length = 32 → iv.length = 12 →
    (c.encipher key iv plaintext).1.length = plaintext.utf8ByteSize
  length_authTag : ∀ key iv plaintext, key.length = 32 → iv.length = 12 →
    (c.encipher key iv plaintext).2.length = 16

section Secrets

variable {c : Cipher} {env env' : Env}

theorem Cipher.Lawful.toBase64_eq_empty_iff (h : c.Lawful) {bytes : List UInt8} :
    c.toBase64 bytes = "" ↔ bytes = [] := by
  constructor
  · intro he
    rw [← h.fromBase64_toBase64 bytes, he, ← h.toBase64_nil, h.fromBase64_toBase64]
  · rintro rfl
    exact h.toBase64_nil

theorem splitOn_fields {x y z : String} (hx : '.' ∉ x.toList) (hy : '.' ∉ y.toList) (hz : '.' ∉ z.toList) :
    ((x ++ "." ++ y ++ "." ++ z).toList.splitOn '.').map String.ofList = [x, y, z] := by
  have hjoin : (x ++ "." ++ y ++ "." ++ z).toList = x.toList ++ '.' :: (y.toList ++ '.' :: z.toList) := by
    simp
  rw [hjoin, List.splitOn_append_cons_self_of_not_mem hx, List.splitOn_append_cons_self_of_not_mem hy,
    List.splitOn_eq_singleton hz]
  simp

theorem getKey_eq (hkey : (env.cipher.fromBase64 env.encryptionKey).length = 32) :
    getKey env = .ok (env.cipher.fromBase64 env.encryptionKey) := if_pos hkey

/-- What a reader of the same deployment makes of three fields. -/
theorem decryptSecret_fields (hlaw : env.cipher.Lawful)
    (hkey : (env.cipher.fromBase64 env.encryptionKey).length = 32) (iv authTag data : List UInt8) :
    decryptSecret env (env.cipher.toBase64 iv ++ "." ++ env.cipher.toBase64 authTag ++ "." ++
        env.cipher.toBase64 data) =
      if iv = [] ∨ authTag = [] ∨ data = [] then .error malformedCiphertext
      else match env.cipher.decipher (env.cipher.fromBase64 env.encryptionKey) iv authTag data with
        | some plaintext => .ok plaintext
        | none => .error (.error "Unsupported state or unable to authenticate data") := by
  rw [decryptSecret, splitOn_fields (hlaw.dot_notMem _) (hlaw.dot_notMem _) (hlaw.dot_notMem _)]
  simp only [hlaw.toBase64_eq_empty_iff, hlaw.fromBase64_toBase64, getKey_eq hkey]
  rfl

/-- A secret that is not empty is read back, and an empty one never is: its
last field is empty, which the reader takes for a missing one. -/
theorem decryptSecret_encryptSecret_iff (hlaw : env.cipher.Lawful)
    (hkey : (env.cipher.fromBase64 env.encryptionKey).length = 32) (hiv : env.randomBytes.length = 12)
    (hcipher : env'.cipher = env.cipher) (hsame : env'.encryptionKey = env.encryptionKey) (plaintext : String) :
    (encryptSecret env plaintext >>= decryptSecret env') = .ok plaintext ↔ plaintext ≠ "" := by
  have hreader : decryptSecret env' = decryptSecret env := by
    funext text
    simp only [decryptSecret, getKey, hcipher, hsame]
  have hdata := hlaw.length_encrypted _ _ plaintext hkey hiv
  have htag := hlaw.length_authTag _ _ plaintext hkey hiv
  have hundo := hlaw.decipher_encipher _ _ plaintext hkey hiv
  generalize hsealed : env.cipher.encipher (env.cipher.fromBase64 env.encryptionKey) env.randomBytes plaintext = fields
    at hdata htag hundo
  have hwritten : encryptSecret env plaintext = .ok (env.cipher.toBase64 env.randomBytes ++ "." ++
      env.cipher.toBase64 fields.2 ++ "." ++ env.cipher.toBase64 fields.1) := by
    rw [encryptSecret, getKey_eq hkey, ← hsealed]
    rfl
  have hempty : (env.randomBytes = [] ∨ fields.2 = [] ∨ fields.1 = []) ↔ plaintext = "" := by
    have hlast : fields.1 = [] ↔ plaintext = "" := by
      rw [← List.length_eq_zero_iff, hdata, String.utf8ByteSize_eq_zero_iff]
    have hiv' : env.randomBytes ≠ [] := fun he => by simp [he] at hiv
    have htag' : fields.2 ≠ [] := fun he => by simp [he] at htag
    rw [or_iff_right hiv', or_iff_right htag', hlast]
  rw [hwritten, hreader]
  change decryptSecret env _ = _ ↔ _
  rw [decryptSecret_fields hlaw hkey, hundo]
  by_cases h : plaintext = ""
  · rw [if_pos (hempty.mpr h)]
    exact iff_of_false (fun he => by cases he) (fun hne => hne h)
  · rw [if_neg (fun he => h (hempty.mp he))]
    exact iff_of_true rfl h

end Secrets

namespace Sample

/-- The character of six bits. -/
def digit (n : ℕ) : Char :=
  if n < 26 then Char.ofNat (n + 65)
  else if n < 52 then Char.ofNat (n + 71)
  else if n < 62 then Char.ofNat (n - 4)
  else if n = 62 then '+'
  else '/'

def sextets : List UInt8 → List ℕ
  | a :: b :: c :: rest =>
    a.toNat / 4 :: (a.toNat % 4 * 16 + b.toNat / 16) :: (b.toNat % 16 * 4 + c.toNat / 64) :: c.toNat % 64 ::
      sextets rest
  | [a, b] => [a.toNat / 4, a.toNat % 4 * 16 + b.toNat / 16, b.toNat % 16 * 4]
  | [a] => [a.toNat / 4, a.toNat % 4 * 16]
  | [] => []

/-- `toString("base64")` of a buffer. -/
def base64 (l : List UInt8) : String :=
  String.ofList ((sextets l).map digit ++ List.replicate ((3 - l.length % 3) % 3) '=')

theorem digit_spec (n : ℕ) (h : n < 64) : sextet? (digit n) = some n ∧ digit n ≠ '=' ∧ digit n ≠ '.' := by
  have key : ∀ m : Fin 64, sextet? (digit m) = some m.val ∧ digit m ≠ '=' ∧ digit m ≠ '.' := by decide
  exact key ⟨n, h⟩

theorem sextets_lt (l : List UInt8) : ∀ n ∈ sextets l, n < 64 := by
  induction l using sextets.induct with
  | case1 a b c rest ih =>
    have ha := a.toNat_lt
    have hb := b.toNat_lt
    have hc := c.toNat_lt
    simp only [sextets, List.forall_mem_cons]
    exact ⟨by omega, by omega, by omega, by omega, ih⟩
  | case2 a b =>
    have ha := a.toNat_lt
    have hb := b.toNat_lt
    simp only [sextets, List.forall_mem_cons, List.not_mem_nil, false_imp_iff, implies_true, and_true]
    omega
  | case3 a =>
    have ha := a.toNat_lt
    simp only [sextets, List.forall_mem_cons, List.not_mem_nil, false_imp_iff, implies_true, and_true]
    omega
  | case4 => exact fun n hn => absurd hn List.not_mem_nil

theorem ofNat_eq {n : ℕ} {a : UInt8} (h : n % 256 = a.toNat) : UInt8.ofNat n = a := by
  rw [← UInt8.toNat_inj, UInt8.toNat_ofNat']
  exact h

theorem bytes_sextets (l : List UInt8) : bytes (sextets l) = l := by
  induction l using sextets.induct with
  | case1 a b c rest ih =>
    have ha := a.toNat_lt
    have hb := b.toNat_lt
    have hc := c.toNat_lt
    rw [sextets, bytes, ih, ofNat_eq (a := a) (by omega), ofNat_eq (a := b) (by omega), ofNat_eq (a := c) (by omega)]
  | case2 a b =>
    have ha := a.toNat_lt
    have hb := b.toNat_lt
    rw [sextets, bytes, ofNat_eq (a := a) (by omega), ofNat_eq (a := b) (by omega)]
  | case3 a =>
    have ha := a.toNat_lt
    rw [sextets, bytes, ofNat_eq (a := a) (by omega)]
  | case4 => rfl

theorem fromBase64_base64 (l : List UInt8) : decoding.cipher.fromBase64 (base64 l) = l := by
  have hdigits : ∀ c ∈ (sextets l).map digit, (c != '=') = true := by
    intro c hc
    obtain ⟨n, hn, rfl⟩ := List.mem_map.mp hc
    exact bne_iff_ne.mpr (digit_spec n (sextets_lt l n hn)).2.1
  have hpadding : (List.replicate ((3 - l.length % 3) % 3) '=').takeWhile (fun c => c != '=') = [] := by
    cases (3 - l.length % 3) % 3 <;> rfl
  have hvalues : ((sextets l).map digit).filterMap sextet? = sextets l := by
    rw [List.filterMap_map]
    refine (List.filterMap_congr (fun n hn => ?_)).trans List.filterMap_some
    exact (digit_spec n (sextets_lt l n hn)).1
  change bytes (((base64 l).toList.takeWhile (fun c => c != '=')).filterMap sextet?) = l
  rw [base64, String.toList_ofList, List.takeWhile_append_of_pos hdigits, hpadding, List.append_nil, hvalues,
    bytes_sextets]

theorem dot_notMem_base64 (l : List UInt8) : '.' ∉ (base64 l).toList := by
  rw [base64, String.toList_ofList, List.mem_append, not_or]
  constructor
  · intro hdot
    obtain ⟨n, hn, he⟩ := List.mem_map.mp hdot
    exact (digit_spec n (sextets_lt l n hn)).2.2 he
  · exact fun hdot => absurd (List.eq_of_mem_replicate hdot) (by decide)

/-- The first block of the key stream of AES-256 under a key and an
initialization vector of zero bytes. -/
def keyStream : List UInt8 := [206, 167, 64, 61, 77, 96, 107, 110, 7, 78, 197, 211, 186, 243, 157, 24]

def mask (data : List UInt8) : List UInt8 := data.mapIdx (fun i b => b ^^^ keyStream.getD i 0)

/-- The tags of the empty text and of the secret below, under the same key. -/
def tagOf (data : List UInt8) : List UInt8 :=
  if data = [] then [83, 15, 138, 251, 199, 69, 54, 185, 169, 99, 180, 241, 196, 203, 115, 139]
  else [246, 59, 23, 21, 128, 59, 114, 181, 203, 90, 46, 239, 4, 193, 224, 26]

def aes : Cipher where
  fromBase64 := decoding.cipher.fromBase64
  toBase64 := base64
  encipher _ _ plaintext :=
    let data := mask plaintext.toByteArray.data.toList
    (data, tagOf data)
  decipher _ _ authTag data :=
    if authTag = tagOf data then String.fromUTF8? ⟨(mask data).toArray⟩ else none

theorem mask_mask (data : List UInt8) : mask (mask data) = data := by
  apply List.ext_getElem
  · simp [mask]
  · intro i h h'
    simp only [mask, List.getElem_mapIdx]
    rw [UInt8.xor_assoc, UInt8.xor_self, UInt8.xor_zero]

theorem aes_lawful : aes.Lawful where
  fromBase64_toBase64 := fromBase64_base64
  dot_notMem := dot_notMem_base64
  toBase64_nil := rfl
  decipher_encipher _ _ plaintext _ _ := by
    simp only [aes, mask_mask, if_pos, Array.toArray_toList]
    exact dif_pos plaintext.isValidUTF8
  length_encrypted _ _ plaintext _ _ := by
    simp [aes, mask]
  length_authTag _ _ plaintext _ _ := by
    simp only [aes, tagOf]
    split <;> rfl

/-- A key and an initialization vector of zero bytes. -/
def sealing : Env := { env "s" with cipher := aes, encryptionKey := validKey, randomBytes := List.replicate 12 0 }

end Sample

open Sample in
/-- An empty secret is sealed into two fields and an empty third, which cannot
be opened. -/
theorem empty_secret_lost :
    aes.Lawful ∧ (aes.fromBase64 sealing.encryptionKey).length = 32 ∧ sealing.randomBytes.length = 12 ∧
      encryptSecret sealing "" = .ok "AAAAAAAAAAAAAAAA.Uw+K+8dFNrmpY7TxxMtziw==." ∧
      decryptSecret sealing "AAAAAAAAAAAAAAAA.Uw+K+8dFNrmpY7TxxMtziw==." = .error malformedCiphertext := by
  refine ⟨aes_lawful, by decide +kernel, rfl, by decide +kernel, by decide +kernel⟩

open Sample in
theorem decryptSecret_encryptSecret_totp :
    (encryptSecret sealing "JBSWY3DPEHPK3PXP" >>= decryptSecret { sealing with randomBytes := [] }) =
      .ok "JBSWY3DPEHPK3PXP" :=
  (decryptSecret_encryptSecret_iff aes_lawful (by decide +kernel) rfl rfl rfl "JBSWY3DPEHPK3PXP").mpr (by decide)

end HostPanel.Model
