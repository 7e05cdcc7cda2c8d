import PullReport.Proofs.Text.Base64Bits
import PullReport.Proofs.TokenStore.Register

/-!
# What the file of a token store may have in it

Anybody can write to the file of a token store, so a store has to make something of every text.
Reading is strict. Blanks at the ends of the text do not count, and for the rest there is one text
for every token that can be loaded. If a token is loaded and saved again, the file has in it
what it had before, without the blanks.

## Main definitions

* `TokenStore.ReadsText`: what is to be said of a store whose file has some text in it.

## Main results

* `Text.fromUTF8?_eq_some_iff`: bytes are read as the text of which they are the UTF-8 form.
* `TokenStore.load_of_read`: what is loaded is what the text of the file holds.
* `TokenStore.readsText_of_read`: all that there is to say of the text of the file.
-/

namespace PullReport

namespace Text

/-- **Bytes are read** as the text of which they are the UTF-8 form. -/
theorem fromUTF8?_eq_some_iff {bytes : List UInt8} {text : String} :
    String.fromUTF8? bytes.toByteArray = some text ↔ utf8 text.toList = bytes := by
  constructor
  · intro h
    have hbytes : (utf8 text.toList).toByteArray = bytes.toByteArray := by
      rw [String.fromUTF8?] at h
      split at h
      · rename_i hvalid
        rw [← Option.some.inj h]
        exact String.utf8Encode_toList
      · cases h
    have hdata := congrArg (fun b => b.data.toList) hbytes
    simpa [List.data_toByteArray] using hdata
  · rintro rfl
    exact fromUTF8?_utf8 text

theorem utf8_toList_inj {text other : String} (h : utf8 text.toList = utf8 other.toList) :
    text = other :=
  Option.some.inj ((fromUTF8?_utf8 text).symm.trans (fromUTF8?_eq_some_iff.2 h.symm))

end Text

namespace FileTree

variable {tree : FileTree} {name text : String}

theorem read_eq_ok_iff :
    tree.read name = .ok text ↔
      ∃ path rights, tree.resolve name = .ok path ∧
        tree.find? path = some (.file text rights) := by
  rw [read]
  cases hpath : tree.resolve name with
  | error e => simp
  | ok path =>
    cases hentry : tree.find? path with
    | none => simp [hentry]
    | some entry => cases entry <;> simp [hentry]

/-- A file that has been put in has its text. -/
theorem read_insert {path : Path} (hpath : tree.resolve name = .ok path)
    (hold : tree.find? path ≠ some .directory) (text : String) (rights : Rights) :
    (tree.insert path (.file text rights)).read name = .ok text :=
  read_eq_ok_iff.2 ⟨path, rights, (keeps_insert hold _).resolve hpath, find?_insert_same hold _⟩

end FileTree

namespace TokenStore

variable {store : TokenStore} {tree : FileTree} {text token : String}

/-! ### Loading -/

/-- What is loaded is what the text of the file holds. -/
theorem load_of_read (h : tree.read store.path = .ok text) :
    store.load tree = (token? text).map some := by
  obtain ⟨path, rights, hpath, hfile⟩ := FileTree.read_eq_ok_iff.1 h
  have hhas : tree.has store.path = true := by
    rw [FileTree.has, hpath]
    simp only [hfile, Option.isSome_some]
  rw [load, hhas, if_pos rfl, h]

/-- What the text of a file can be: no encoding, one of bytes that are no UTF-8, or one of a
token. -/
theorem token?_cases (text : String) :
    (token? text = .error .notBase64 ∧ ∀ bytes, ¬ Base64.IsEncoding bytes (Text.trim text.toList)) ∨
      (∃ bytes, Base64.IsEncoding bytes (Text.trim text.toList) ∧
        ((token? text = .error .notText ∧ ∀ token : String, Text.utf8 token.toList ≠ bytes) ∨
          ∃ token, token? text = .ok token ∧ Text.utf8 token.toList = bytes)) := by
  rw [token?]
  cases hbytes : Base64.decode? (Text.trim text.toList) with
  | none =>
    refine .inl ⟨rfl, fun bytes h => ?_⟩
    rw [Base64.decode?_eq_some_iff.2 h] at hbytes
    cases hbytes
  | some bytes =>
    refine .inr ⟨bytes, Base64.decode?_eq_some_iff.1 hbytes, ?_⟩
    cases htoken : String.fromUTF8? bytes.toByteArray with
    | none =>
      refine .inl ⟨by simp only [htoken], fun token h => ?_⟩
      rw [Text.fromUTF8?_eq_some_iff.2 h] at htoken
      cases htoken
    | some token =>
      exact .inr ⟨token, by simp only [htoken], Text.fromUTF8?_eq_some_iff.1 htoken⟩

/-- **What a token is loaded from**: the encoding of its bytes. -/
theorem token?_eq_ok_iff :
    token? text = .ok token ↔
      Base64.IsEncoding (Text.utf8 token.toList) (Text.trim text.toList) := by
  rcases token?_cases text with ⟨h, hnone⟩ | ⟨bytes, hbytes, ⟨h, hnone⟩ | ⟨other, h, rfl⟩⟩
  · rw [h]
    exact ⟨nofun, fun hencoding => absurd hencoding (hnone _)⟩
  · rw [h]
    exact ⟨nofun, fun hencoding => absurd (hencoding.bytes_unique hbytes) (hnone token)⟩
  · rw [h, Except.ok.injEq]
    constructor
    · rintro rfl
      exact hbytes
    · intro hencoding
      exact Text.utf8_toList_inj (hbytes.bytes_unique hencoding)

theorem token?_eq_notText_iff :
    token? text = .error .notText ↔
      ∃ bytes, Base64.IsEncoding bytes (Text.trim text.toList) ∧
        ∀ token : String, Text.utf8 token.toList ≠ bytes := by
  rcases token?_cases text with ⟨h, hnone⟩ | ⟨bytes, hbytes, ⟨h, hnone⟩ | ⟨other, h, rfl⟩⟩
  · rw [h]
    exact ⟨nofun, fun ⟨bytes, hbytes, _⟩ => absurd hbytes (hnone bytes)⟩
  · rw [h]
    exact ⟨fun _ => ⟨bytes, hbytes, hnone⟩, fun _ => rfl⟩
  · rw [h]
    refine ⟨nofun, fun ⟨others, hothers, hnone⟩ => ?_⟩
    exact absurd (hbytes.bytes_unique hothers) (hnone other)

theorem token?_eq_notBase64_iff :
    token? text = .error .notBase64 ↔
      ∀ bytes, ¬ Base64.IsEncoding bytes (Text.trim text.toList) := by
  rcases token?_cases text with ⟨h, hnone⟩ | ⟨bytes, hbytes, ⟨h, -⟩ | ⟨other, h, -⟩⟩
  · rw [h]
    exact ⟨fun _ => hnone, fun _ => rfl⟩
  · rw [h]
    exact ⟨nofun, fun hnone => absurd hbytes (hnone bytes)⟩
  · rw [h]
    exact ⟨nofun, fun hnone => absurd hbytes (hnone bytes)⟩

/-- What a token is loaded from is, without the blanks, what is saved for it. -/
theorem written_of_token? (h : token? text = .ok token) :
    written token = String.ofList (Text.trim text.toList) := by
  rw [written, Base64.isEncoding_iff.1 (token?_eq_ok_iff.1 h)]

/-! ### The file of a store -/

/-- What is to be said of a store whose file has some text in it. -/
structure ReadsText (store : TokenStore) (tree : FileTree) (text : String) : Prop where
  /-- A token is loaded from the encoding of its UTF-8 form, and from nothing else. -/
  token_iff : ∀ token, store.load tree = .ok (some token) ↔
    Base64.IsEncoding (Text.utf8 token.toList) (Text.trim text.toList)
  /-- The encoding of bytes that are no UTF-8 is told from what is no encoding at all. -/
  notText_iff : store.load tree = .error .notText ↔
    ∃ bytes, Base64.IsEncoding bytes (Text.trim text.toList) ∧
      ∀ token : String, Text.utf8 token.toList ≠ bytes
  notBase64_iff : store.load tree = .error .notBase64 ↔
    ∀ bytes, ¬ Base64.IsEncoding bytes (Text.trim text.toList)
  /-- Nothing else can come out. -/
  cases : (∃ token, store.load tree = .ok (some token)) ∨
    store.load tree = .error .notText ∨ store.load tree = .error .notBase64
  /-- A file from which the same token is loaded has the same text in it, but for the blanks. -/
  unique : ∀ (token : String) (other : FileTree) (otherText : String),
    store.load tree = .ok (some token) → other.read store.path = .ok otherText →
      store.load other = .ok (some token) →
        Text.trim otherText.toList = Text.trim text.toList
  /-- Saving what has been loaded takes the blanks away and changes nothing else in the file. -/
  save : ∀ token, store.load tree = .ok (some token) →
    ∃ new, store.save token tree = (.ok (), new) ∧
      new.read store.path = .ok (String.ofList (Text.trim text.toList))
  /-- So does a save that fails because the rights to the file cannot be set. -/
  save_refused : ∀ (token : String) (reason : FileError), store.load tree = .ok (some token) →
    ∃ new, store.save token tree (some reason) = (.error (.storage reason), new) ∧
      new.read store.path = .ok (String.ofList (Text.trim text.toList))

theorem load_eq_ok_iff (h : tree.read store.path = .ok text) :
    store.load tree = .ok (some token) ↔ token? text = .ok token := by
  rw [load_of_read h]
  cases token? text with
  | error e => simp [Except.map]
  | ok other => simp [Except.map]

theorem load_eq_error_iff {e : Error} (h : tree.read store.path = .ok text) :
    store.load tree = .error e ↔ token? text = .error e := by
  rw [load_of_read h]
  cases token? text with
  | error e => simp [Except.map]
  | ok other => simp [Except.map]

/-- There is a place for the file where it is. -/
theorem exists_place_of_read (htree : tree.Sound) (h : tree.read store.path = .ok text) :
    ∃ path, store.Place tree tree path := by
  obtain ⟨path, rights, hpath, hfile⟩ := FileTree.read_eq_ok_iff.1 h
  exact ⟨path, place_of_resolve htree hpath (by simp [hfile])⟩

/-- **The text of the file**, whatever it is, holds one token or none, and no other text holds the
same token. -/
theorem readsText_of_read (htree : tree.Sound) (h : tree.read store.path = .ok text) :
    store.ReadsText tree text where
  token_iff := fun token => (load_eq_ok_iff h).trans token?_eq_ok_iff
  notText_iff := (load_eq_error_iff h).trans token?_eq_notText_iff
  notBase64_iff := (load_eq_error_iff h).trans token?_eq_notBase64_iff
  cases := by
    rw [load_eq_error_iff h, load_eq_error_iff h]
    simp only [load_eq_ok_iff h]
    rcases token?_cases text with ⟨h, -⟩ | ⟨_, -, ⟨h, -⟩ | ⟨token, h, -⟩⟩
    · exact .inr (.inr h)
    · exact .inr (.inl h)
    · exact .inl ⟨token, h⟩
  unique := by
    intro token other otherText hload hother hotherLoad
    have htext := token?_eq_ok_iff.1 ((load_eq_ok_iff h).1 hload)
    have hotherText := token?_eq_ok_iff.1 ((load_eq_ok_iff hother).1 hotherLoad)
    exact hotherText.unique htext
  save := by
    intro token hload
    obtain ⟨path, hplace⟩ := exists_place_of_read htree h
    rw [← written_of_token? ((load_eq_ok_iff h).1 hload)]
    exact ⟨_, hplace.save_eq token none, FileTree.read_insert hplace.resolve hplace.find? _ _⟩
  save_refused := by
    intro token reason hload
    obtain ⟨path, hplace⟩ := exists_place_of_read htree h
    rw [← written_of_token? ((load_eq_ok_iff h).1 hload)]
    exact ⟨_, hplace.save_eq token (some reason),
      FileTree.read_insert hplace.resolve hplace.find? _ _⟩

/-- A file with blanks around the encoding of two bytes, which are one character. -/
theorem readsText_of_blanks :
    let store : TokenStore := ⟨"a/b"⟩
    let tree := store.after ⟨[], []⟩ [.makeDirs "a/b", .write "a/b/token" "\t w6k=\r\n"]
    tree.Sound ∧ tree.read store.path = .ok "\t w6k=\r\n" ∧ store.load tree = .ok (some "é") ∧
      ∃ new, store.save "é" tree = (.ok (), new) ∧ new.read store.path = .ok "w6k=" := by
  intro store tree
  have htree : tree.Sound := store.sound_after FileTree.sound_empty _
  have hread : tree.read store.path = .ok "\t w6k=\r\n" := by decide +kernel
  have hreads := readsText_of_read htree hread
  have hload : store.load tree = .ok (some "é") :=
    (hreads.token_iff "é").2 (Base64.isEncoding_iff.2 (by decide +kernel))
  exact ⟨htree, hread, hload, hreads.save "é" hload⟩

end TokenStore

end PullReport
