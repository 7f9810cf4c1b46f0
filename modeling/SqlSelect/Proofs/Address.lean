import SqlSelect.Number.Digits
import SqlSelect.Proofs.Decoding
import SqlSelect.Proofs.Percent
import SqlSelect.Settings

/-!
Addresses taken apart. The credentials end at the first `@`, the host at the last colon
and the port where no more digits follow. The host is written as it is and may hold any of
these marks, but no other part does, so that an address tells all that it was made from.
-/

namespace SqlSelect

theorem append_cons_inj_right {α : Type} {a : α} {xs ys s t : List α} (hs : a ∉ s) (ht : a ∉ t)
    (h : xs ++ a :: s = ys ++ a :: t) : xs = ys ∧ s = t := by
  have hreverse : s.reverse ++ a :: xs.reverse = t.reverse ++ a :: ys.reverse := by
    simpa using congrArg List.reverse h
  obtain ⟨hst, hxy⟩ := append_cons_inj (by simpa using hs) (by simpa using ht) hreverse
  exact ⟨List.reverse_injective hxy, List.reverse_injective hst⟩

theorem Text.notMem_percentEncode {s : String} {c : Char} (hunreserved : isUnreserved c = false)
    (hpercent : c ≠ '%') : c ∉ (percentEncode s).toList := by
  intro hc
  rcases mem_percentEncode hc with h | h
  · rw [hunreserved] at h
    cases h
  · exact hpercent h

namespace Settings

/-! ### Credentials -/

/-- The part of an address between its scheme and its first `@`. -/
def userInfo (address : String) : List Char :=
  (address.toList.drop "mysql://".length).takeWhile (· != '@')

/-- A character that credentials can have. -/
def IsCredential (c : Char) : Prop :=
  c.isAlphanum = true ∨ c ∈ ['-', '.', '_', '~', '%', ':']

theorem toList_credentials (s : Settings) :
    s.credentials.toList = (Text.percentEncode s.user).toList ++
      s.password.toList.flatMap fun password => ':' :: (Text.percentEncode password).toList := by
  rw [credentials]
  cases s.password with
  | none => simp
  | some password => simp

theorem splitOn_credentials (s : Settings) :
    s.credentials.toList.splitOn ':' =
      (s.user :: s.password.toList).map fun text => (Text.percentEncode text).toList := by
  have hcolon (text : String) : ':' ∉ (Text.percentEncode text).toList :=
    Text.notMem_percentEncode rfl (by decide)
  rw [toList_credentials]
  cases s.password with
  | none => simpa using List.splitOn_eq_singleton (hcolon s.user)
  | some password =>
      simp [List.splitOn_append_cons_self, List.splitOn_eq_singleton (hcolon _)]

/-- The parts between the colons of the credentials are the user and the password. -/
theorem mapM_percentDecode?_credentials (s : Settings) :
    (s.credentials.toList.splitOn ':').mapM Text.percentDecode? =
      some (s.user :: s.password.toList) := by
  rw [splitOn_credentials]
  cases s.password with
  | none => simp [Text.percentDecode?_percentEncode]
  | some password => simp [Text.percentDecode?_percentEncode]

theorem credentials_inj {a b : Settings} (h : a.credentials = b.credentials) :
    a.user = b.user ∧ a.password = b.password := by
  have hparts := a.mapM_percentDecode?_credentials
  rw [h, mapM_percentDecode?_credentials, Option.some.injEq, List.cons.injEq] at hparts
  exact ⟨hparts.1.symm, by simpa using congrArg List.head? hparts.2.symm⟩

theorem isCredential_of_mem_percentEncode {text : String} {c : Char}
    (h : c ∈ (Text.percentEncode text).toList) : IsCredential c := by
  rcases Text.mem_percentEncode h with h | rfl
  · simp only [Text.isUnreserved, Bool.or_eq_true, beq_iff_eq] at h
    rcases h with (((h | rfl) | rfl) | rfl) | rfl
    · exact .inl h
    all_goals exact .inr (by decide)
  · exact .inr (by decide)

theorem isCredential_of_mem {s : Settings} {c : Char} (h : c ∈ s.credentials.toList) :
    IsCredential c := by
  rw [toList_credentials, List.mem_append, List.mem_flatMap] at h
  rcases h with h | ⟨password, -, h⟩
  · exact isCredential_of_mem_percentEncode h
  · rcases List.mem_cons.mp h with rfl | h
    · exact .inr (by decide)
    · exact isCredential_of_mem_percentEncode h

theorem count_credentials_le (s : Settings) : s.credentials.toList.count ':' ≤ 1 := by
  have hcolon (text : String) : (Text.percentEncode text).toList.count ':' = 0 :=
    List.count_eq_zero.mpr (Text.notMem_percentEncode rfl (by decide))
  rw [toList_credentials]
  cases s.password with
  | none => simp [hcolon]
  | some password => simp [hcolon]

theorem at_notMem_credentials (s : Settings) : '@' ∉ s.credentials.toList := by
  intro h
  rcases isCredential_of_mem h with h | h
  · cases h
  · revert h
    decide

/-! ### Database -/

/-- A database that is missing and one without a name are written alike. -/
theorem toList_path (s : Settings) :
    s.path.toList = if s.database.getD "" = "" then []
      else '/' :: (Text.percentEncode (s.database.getD "")).toList := by
  rw [path]
  cases s.database with
  | none => rfl
  | some database =>
      by_cases hempty : database = ""
      · simp [hempty]
      · simp [hempty]

theorem toList_path_inj {a b : Settings} (h : a.path.toList = b.path.toList) :
    a.database.getD "" = b.database.getD "" := by
  rw [toList_path, toList_path] at h
  split at h <;> split at h
  · simp [*]
  · cases h
  · cases h
  · have hdatabase := congrArg Text.percentDecode? (List.cons.inj h).2
    rw [Text.percentDecode?_percentEncode, Text.percentDecode?_percentEncode] at hdatabase
    exact Option.some.inj hdatabase

theorem colon_notMem_path (s : Settings) : ':' ∉ s.path.toList := by
  rw [toList_path]
  split
  · exact List.not_mem_nil
  · rw [List.mem_cons, not_or]
    exact ⟨by decide, Text.notMem_percentEncode rfl (by decide)⟩

/-- The last colon of an address is the one behind the host. -/
theorem colon_notMem_end (s : Settings) :
    ':' ∉ Digits.ofNat s.port.toNat ++ s.path.toList := by
  rw [List.mem_append, not_or]
  refine ⟨fun h => ?_, s.colon_notMem_path⟩
  cases Digits.isDigit_of_mem_ofNat h

theorem isDigit_head_path (s : Settings) : ∀ c ∈ s.path.toList.head?, c.isDigit = false := by
  rw [toList_path]
  split
  · simp
  · simp

/-! ### Whole addresses -/

theorem toList_url (s : Settings) :
    s.url.toList = "mysql://".toList ++ (s.credentials.toList ++ '@' ::
      (s.host.toList ++ ':' :: (Digits.ofNat s.port.toNat ++ s.path.toList))) := by
  simp [url, Digits.ofNat, Nat.toString_eq_repr]

/-- Credentials end where the first `@` is. -/
theorem userInfo_url (s : Settings) : userInfo s.url = s.credentials.toList := by
  have hcredentials : ∀ c ∈ s.credentials.toList, (c != '@') = true := by
    intro c hc
    rw [bne_iff_ne]
    rintro rfl
    exact s.at_notMem_credentials hc
  rw [userInfo, toList_url, ← String.length_toList, List.drop_left,
    List.takeWhile_append_of_pos hcredentials, List.takeWhile_cons_of_neg (by decide),
    List.append_nil]

theorem url_inj {a b : Settings} (h : a.url = b.url) :
    a.credentials = b.credentials ∧ a.host = b.host ∧ a.port = b.port ∧
      a.database.getD "" = b.database.getD "" := by
  have hurl := congrArg String.toList h
  rw [toList_url, toList_url, List.append_cancel_left_eq] at hurl
  obtain ⟨hcredentials, hrest⟩ :=
    append_cons_inj a.at_notMem_credentials b.at_notMem_credentials hurl
  obtain ⟨hhost, hrest⟩ := append_cons_inj_right a.colon_notMem_end b.colon_notMem_end hrest
  obtain ⟨hport, hpath⟩ := Digits.append_inj (fun _ => Digits.isDigit_of_mem_ofNat)
    a.isDigit_head_path (fun _ => Digits.isDigit_of_mem_ofNat) b.isDigit_head_path hrest
  have hnumber := congrArg Digits.toNat hport
  rw [Digits.toNat_ofNat, Digits.toNat_ofNat] at hnumber
  exact ⟨String.toList_inj.mp hcredentials, String.toList_inj.mp hhost, UInt16.toNat_inj.mp hnumber,
    toList_path_inj hpath⟩

/-- Two settings have one address just when they name the same user, the same password or
none, the same host, port and database, where a database without a name is none. The
credentials in front of the first `@` keep to a few characters and are decoded from there. -/
theorem url_eq_iff (a b : Settings) :
    (a.url = b.url ↔ a.host = b.host ∧ a.port = b.port ∧ a.user = b.user ∧
      a.password = b.password ∧ a.database.getD "" = b.database.getD "") ∧
    (∃ rest, a.url.toList = "mysql://".toList ++ userInfo a.url ++ '@' :: rest) ∧
    (∀ c ∈ userInfo a.url, IsCredential c) ∧ (userInfo a.url).count ':' ≤ 1 ∧
    ((userInfo a.url).splitOn ':').mapM Text.percentDecode? =
      some (a.user :: a.password.toList) := by
  refine ⟨⟨fun h => ?_, ?_⟩, ?_, ?_, ?_, ?_⟩
  · obtain ⟨hcredentials, hhost, hport, hdatabase⟩ := url_inj h
    obtain ⟨huser, hpassword⟩ := credentials_inj hcredentials
    exact ⟨hhost, hport, huser, hpassword, hdatabase⟩
  · rintro ⟨hhost, hport, huser, hpassword, hdatabase⟩
    rw [← String.toList_inj, toList_url, toList_url, toList_credentials, toList_credentials,
      toList_path, toList_path, hhost, hport, huser, hpassword, hdatabase]
  · rw [userInfo_url]
    exact ⟨_, by rw [toList_url, List.append_assoc]⟩
  · rw [userInfo_url]
    exact fun _ => isCredential_of_mem
  · rw [userInfo_url]
    exact a.count_credentials_le
  · rw [userInfo_url]
    exact a.mapM_percentDecode?_credentials

end Settings

end SqlSelect
