/-
The names of chat files: from a local path to a storage object, and from its link back.

A local path is read as an address, so its last part is cut at a question mark or a number
sign and its characters are escaped; this escaped text is the name of the object.  A link
escapes it once more, and what is read from the link is not unescaped.
-/

import FiksOpp.DeleteMessage
import FiksOpp.Foundations.ComponentEncoding
import Mathlib.Data.Bool.AllAny

namespace FiksOpp.Chat

open PercentEncoding

/-- An address may have either slash. -/
def isSlash (char : Char) : Bool :=
  char = '/' || char = '\\'

def endsPath (char : Char) : Bool :=
  char = '?' || char = '#'

def afterAuthority (address : List Char) : List Char :=
  let reference := if "https:".toList.isPrefixOf address then address.drop 6 else address
  match reference with
  | first :: second :: rest =>
      if isSlash first && isSlash second then
        rest.dropWhile fun char => !isSlash char && !endsPath char
      else reference
  | _ => reference

/-- What stands between the slashes of `Uri.parse(address).path`, before it is
normalized. -/
def pathParts (address : List Char) : List (List Char) :=
  ((afterAuthority address).takeWhile fun char => !endsPath char).splitOnP isSlash

/-- A part that is a dot once normalized is dropped, and two dots take the part before them
along. -/
def pushPart (parts : List (List Char)) (part : List Char) : List (List Char) :=
  if normalize part = ['.', '.'] then parts.tail
  else if normalize part = ['.'] then parts
  else part :: parts

def lastPart (address : List Char) : Option (List Char) :=
  ((pathParts address).foldl pushPart []).find? fun part => part ≠ []

/-- `path.basename(Uri.parse(address).path)`.  A part has no question mark, so that it is
normalized as a query is. -/
def basename (address : List Char) : List Char :=
  match lastPart address with
  | none => ['/']
  | some part => normalize part

/-- Where the links point to, and how an object's path is put into them. -/
structure FirebaseStorage where
  host : List Char
  bucket : List Char
  encoder : Encoder
  host_plain : ∀ char ∈ host, isSlash char = false ∧ endsPath char = false
  bucket_plain : ∀ char ∈ bucket, endsPath char = false

namespace FirebaseStorage

def bucketPath (storage : FirebaseStorage) : List Char :=
  "/v0/b/".toList ++ storage.bucket ++ "/o".toList

def linkFront (storage : FirebaseStorage) : List Char :=
  "https://".toList ++ storage.host ++ storage.bucketPath

def link (storage : FirebaseStorage) (object token : List Char) : List Char :=
  storage.linkFront ++ '/' :: (storage.encoder.encode object ++ "?alt=media&token=".toList ++ token)

def objectOfLink (storage : FirebaseStorage) (url : List Char) : List Char :=
  let encoded := (url.drop (storage.linkFront.length + 1)).takeWhile fun char => char ≠ '?'
  (decodeComponent encoded).getD []

theorem escapes_question (storage : FirebaseStorage) (text : List Char) :
    '?' ∉ storage.encoder.encode text :=
  Encoder.not_mem_encode (storage.encoder.marks_escaped _ (by decide)) (by decide) (by decide) text

theorem objectOfLink_link (storage : FirebaseStorage) (object token : List Char) :
    storage.objectOfLink (storage.link object token) = object := by
  have dropped : (storage.link object token).drop (storage.linkFront.length + 1) =
      storage.encoder.encode object ++ ("?alt=media&token=".toList ++ token) := by
    unfold link
    rw [List.drop_append, List.drop_of_length_le (Nat.le_succ _), Nat.add_sub_cancel_left]
    exact List.append_assoc ..
  have taken : (storage.encoder.encode object ++ ("?alt=media&token=".toList ++ token)).takeWhile
      (fun char => char ≠ '?') = storage.encoder.encode object := by
    rw [List.takeWhile_append_of_pos]
    · exact List.append_nil _
    · intro char member
      rw [decide_eq_true_iff]
      rintro rfl
      exact storage.escapes_question object member
  unfold objectOfLink
  dsimp only
  rw [dropped, taken, Encoder.decodeComponent_encode]
  rfl

def service (storage : FirebaseStorage) : StorageService where
  basename address := String.ofList (basename address.toList)
  getDownloadURL object token := String.ofList (storage.link object.toList token.toList)
  objectOf url := String.ofList (storage.objectOfLink url.toList)
  objectOf_getDownloadURL := by
    intro object token
    rw [String.toList_ofList, objectOfLink_link, String.ofList_toList]

end FirebaseStorage

def tokenChar : Token → Char
  | .escape byte => Char.ofNat byte.toNat
  | .literal char => char

/-- The token is a character that a link keeps, or the escape of an unreserved one. -/
def PlainToken (storage : FirebaseStorage) : Token → Prop
  | .escape byte => unreserved (Char.ofNat byte.toNat) = true
  | .literal char => storage.encoder.keeps char = true

def PlainName (storage : FirebaseStorage) (path : String) : Prop :=
  ∃ part, lastPart path.toList = some part ∧ ∀ token ∈ tokens part, PlainToken storage token

def readName (path : String) : Option (List Char) :=
  (lastPart path.toList).map fun part => (tokens part).map tokenChar

def uploaded (files : List PickedFile) : List PickedFile :=
  files.filter PickedFile.uploads

/-- No two uploads write one object, and each link shows the name of the object written. -/
structure KeepsIdentity (storage : FirebaseStorage) (files : List PickedFile) : Prop where
  apart : (uploaded files).Pairwise fun file other =>
    storage.service.uploadedObject file.path ≠ storage.service.uploadedObject other.path
  named : ∀ file ∈ uploaded files,
    storage.service.getChatFileName
        (storage.service.getDownloadURL (storage.service.uploadedObject file.path) file.token) =
      storage.service.getFileName file.path

/-- The names are plain, and read without escapes no two are the same. -/
structure PlainAndDistinct (storage : FirebaseStorage) (files : List PickedFile) : Prop where
  plain : ∀ file ∈ uploaded files, PlainName storage file.path
  distinct : (uploaded files).Pairwise fun file other =>
    readName file.path ≠ readName other.path

section Links

variable {storage : FirebaseStorage}

theorem afterAuthority_link (object token : List Char) :
    afterAuthority (storage.link object token) =
      storage.bucketPath ++
        '/' :: (storage.encoder.encode object ++ "?alt=media&token=".toList ++ token) := by
  have host : ∀ char ∈ storage.host, (!isSlash char && !endsPath char) = true := by
    intro char member
    obtain ⟨slash, ends⟩ := storage.host_plain char member
    rw [slash, ends]
    rfl
  have front : storage.link object token =
      "https://".toList ++ (storage.host ++ (storage.bucketPath ++
        '/' :: (storage.encoder.encode object ++ "?alt=media&token=".toList ++ token))) := by
    unfold FirebaseStorage.link FirebaseStorage.linkFront
    simp only [List.append_assoc]
  rw [front]
  change (storage.host ++ _).dropWhile _ = _
  rw [List.dropWhile_append_of_pos host]
  rfl

theorem endsPath_bucketPath (storage : FirebaseStorage) :
    ∀ char ∈ storage.bucketPath, endsPath char = false := by
  have before : ∀ char ∈ "/v0/b/".toList, endsPath char = false :=
    List.all_iff_forall_prop.mp (by decide)
  have behind : ∀ char ∈ "/o".toList, endsPath char = false :=
    List.all_iff_forall_prop.mp (by decide)
  intro char member
  unfold FirebaseStorage.bucketPath at member
  rcases List.mem_append.mp member with frontOrBucket | back
  · rcases List.mem_append.mp frontOrBucket with front | inside
    · exact before char front
    · exact storage.bucket_plain char inside
  · exact behind char back

theorem endsPath_encode (object : List Char) :
    ∀ char ∈ storage.encoder.encode object, endsPath char = false := by
  intro char encoded
  have sharp : '#' ∉ storage.encoder.encode object :=
    Encoder.not_mem_encode (Encoder.keeps_eq_false (by decide)) (by decide) (by decide) _
  have notQuestion : char ≠ '?' := fun same =>
    storage.escapes_question object (same ▸ encoded)
  have notSharp : char ≠ '#' := fun same => sharp (same ▸ encoded)
  simp [endsPath, notQuestion, notSharp]

theorem isSlash_encode (object : List Char) :
    ∀ char ∈ storage.encoder.encode object, isSlash char = false := by
  intro char encoded
  have slash : '/' ∉ storage.encoder.encode object :=
    Encoder.not_mem_encode (storage.encoder.marks_escaped _ (by decide)) (by decide)
      (by decide) _
  have backslash : '\\' ∉ storage.encoder.encode object :=
    Encoder.not_mem_encode (Encoder.keeps_eq_false (by decide)) (by decide) (by decide) _
  have notSlash : char ≠ '/' := fun same => slash (same ▸ encoded)
  have notBackslash : char ≠ '\\' := fun same => backslash (same ▸ encoded)
  simp [isSlash, notSlash, notBackslash]

theorem pathParts_link (object token : List Char) :
    ∃ before, pathParts (storage.link object token) =
      before ++ [storage.encoder.encode object] := by
  have inPath : ∀ char ∈ storage.bucketPath ++ '/' :: storage.encoder.encode object,
      (!endsPath char) = true := by
    intro char member
    rw [Bool.not_eq_true']
    rcases List.mem_append.mp member with bucket | slashOrObject
    · exact endsPath_bucketPath storage char bucket
    · rcases List.mem_cons.mp slashOrObject with slash | encoded
      · rw [slash]
        rfl
      · exact endsPath_encode object char encoded
  have path : (storage.bucketPath ++
      '/' :: (storage.encoder.encode object ++ "?alt=media&token=".toList ++ token)).takeWhile
        (fun char => !endsPath char) =
      storage.bucketPath ++ '/' :: storage.encoder.encode object := by
    have regrouped : storage.bucketPath ++
        '/' :: (storage.encoder.encode object ++ "?alt=media&token=".toList ++ token) =
          (storage.bucketPath ++ '/' :: storage.encoder.encode object) ++
            ("?alt=media&token=".toList ++ token) := by
      simp only [List.append_assoc, List.cons_append]
    rw [regrouped, List.takeWhile_append_of_pos inPath]
    exact List.append_nil _
  refine ⟨storage.bucketPath.splitOnP isSlash, ?_⟩
  rw [pathParts, afterAuthority_link, path, List.splitOnP_append_cons _ _ rfl,
    List.splitOnP_eq_singleton (isSlash_encode object)]

theorem encode_chatFile (name : List Char) :
    storage.encoder.encode ((chatFiles ++ "/").toList ++ name) =
      (chatFiles ++ "%2F").toList ++ storage.encoder.encode name := by
  have letters : storage.encoder.encode chatFiles.toList = chatFiles.toList := by
    apply Encoder.encode_of_keeps
    have plain : chatFiles.toList.all unreserved = true := by decide
    intro char member
    exact storage.encoder.unreserved_kept char (List.all_eq_true.mp plain char member)
  have slash : storage.encoder.encodeChar '/' = "%2F".toList := by
    rw [Encoder.encodeChar_of_not_keeps (storage.encoder.marks_escaped _ (by decide))]
    decide
  unfold Encoder.encode at letters ⊢
  rw [String.toList_append, String.toList_append, List.flatMap_append, List.flatMap_append,
    letters]
  change chatFiles.toList ++ (storage.encoder.encodeChar '/' ++ []) ++ _ = _
  rw [slash]
  rfl

theorem getChatFileName_link (name token : String) :
    storage.service.getChatFileName
        (storage.service.getDownloadURL (chatFiles ++ "/" ++ name) token) =
      String.ofList (storage.encoder.encode name.toList) := by
  obtain ⟨before, parts⟩ :=
    @pathParts_link storage ((chatFiles ++ "/") ++ name).toList token.toList
  rw [String.toList_append, encode_chatFile] at parts
  have kept : normalize ((chatFiles ++ "%2F").toList ++ storage.encoder.encode name.toList) =
      (chatFiles ++ "%2F").toList ++ storage.encoder.encode name.toList := by
    rw [← encode_chatFile]
    exact Encoder.normalize_encode _
  have last : lastPart (storage.link ((chatFiles ++ "/") ++ name).toList token.toList) =
      some ((chatFiles ++ "%2F").toList ++ storage.encoder.encode name.toList) := by
    unfold lastPart
    rw [String.toList_append, parts, List.foldl_concat]
    unfold pushPart
    rw [kept, if_neg (by intro same; cases same), if_neg (by intro same; cases same),
      List.find?_cons]
    rfl
  have shown : basename (storage.link ((chatFiles ++ "/") ++ name).toList token.toList) =
      (chatFiles ++ "%2F").toList ++ storage.encoder.encode name.toList := by
    unfold basename
    rw [last]
    exact kept
  unfold StorageService.getChatFileName FirebaseStorage.service
  dsimp only
  rw [String.toList_ofList, String.toList_ofList, shown]
  rfl

/-! ### Plain names -/

theorem normalizeToken_of_plain {token : Token} (plain : PlainToken storage token) :
    normalizeToken token = [tokenChar token] := by
  cases token with
  | escape byte => exact if_pos plain
  | literal char =>
      unfold normalizeToken
      dsimp only
      rw [if_neg (Encoder.ne_percent_of_keeps plain),
        if_pos (storage.encoder.kept_allowed char plain)]
      rfl

theorem percent_mem_flatMap (char : Char) :
    '%' ∈ (String.utf8EncodeChar char).flatMap percentEncode := by
  cases bytes : String.utf8EncodeChar char with
  | nil => exact absurd bytes String.utf8EncodeChar_ne_nil
  | cons first rest => exact List.mem_cons_self

theorem percent_mem_of_not_plain {token : Token} (other : ¬ PlainToken storage token) :
    normalizeToken token = [tokenChar token] ∧ storage.encoder.keeps (tokenChar token) = false ∨
      '%' ∈ normalizeToken token := by
  cases token with
  | escape byte =>
      right
      have reserved : ¬ unreserved (Char.ofNat byte.toNat) = true := other
      unfold normalizeToken
      dsimp only
      rw [if_neg reserved]
      exact List.mem_cons_self
  | literal char =>
      unfold normalizeToken
      dsimp only
      by_cases percent : char = '%'
      · rw [if_pos percent]
        exact Or.inr List.mem_cons_self
      · rw [if_neg percent]
        by_cases allowed : queryChar char = true
        · rw [if_pos allowed]
          exact Or.inl ⟨rfl, Bool.not_eq_true _ ▸ other⟩
        · rw [if_neg allowed]
          exact Or.inr (percent_mem_flatMap char)

theorem keeps_normalizeToken_iff (token : Token) :
    (∀ char ∈ normalizeToken token, storage.encoder.keeps char = true) ↔
      PlainToken storage token := by
  constructor
  · intro kept
    by_contra other
    rcases percent_mem_of_not_plain other with ⟨single, escaped⟩ | percent
    · rw [kept _ (single ▸ List.mem_singleton.mpr rfl)] at escaped
      cases escaped
    · have escaped := @Encoder.percent_escaped storage.encoder
      rw [kept _ percent] at escaped
      cases escaped
  · intro plain char member
    rw [normalizeToken_of_plain plain] at member
    rw [List.mem_singleton.mp member]
    cases token with
    | escape byte => exact storage.encoder.unreserved_kept _ plain
    | literal char => exact plain

theorem keeps_basename_iff (path : String) :
    (∀ char ∈ basename path.toList, storage.encoder.keeps char = true) ↔
      PlainName storage path := by
  unfold basename PlainName
  cases lastPart path.toList with
  | none =>
      constructor
      · intro kept
        have slash := kept '/' (List.mem_singleton.mpr rfl)
        rw [storage.encoder.marks_escaped _ (by decide)] at slash
        cases slash
      · rintro ⟨part, impossible, _⟩
        cases impossible
  | some part =>
      unfold PercentEncoding.normalize
      simp only [Option.some.injEq, exists_eq_left', List.mem_flatMap, forall_exists_index,
        and_imp, ← @keeps_normalizeToken_iff storage]
      exact ⟨fun kept token member char inside => kept char token member inside,
        fun kept char token member inside => kept token member char inside⟩

theorem getFileName_eq (path : String) :
    storage.service.getFileName path = String.ofList (basename path.toList) := rfl

/-- The link of an upload shows the object's name exactly when the file's name is plain. -/
theorem getChatFileName_eq_iff (path token : String) :
    storage.service.getChatFileName
          (storage.service.getDownloadURL (storage.service.uploadedObject path) token) =
        storage.service.getFileName path ↔ PlainName storage path := by
  unfold StorageService.uploadedObject
  rw [getChatFileName_link, getFileName_eq, String.toList_ofList, String.ofList_inj,
    Encoder.encode_eq_self_iff, keeps_basename_iff]

theorem basename_of_plain {path : String} (plain : PlainName storage path) :
    some (basename path.toList) = readName path := by
  obtain ⟨part, last, tokens_plain⟩ := plain
  unfold basename readName
  rw [last]
  dsimp only [Option.map_some]
  congr 1
  unfold PercentEncoding.normalize
  rw [List.flatMap_congr fun token member => normalizeToken_of_plain (tokens_plain token member)]
  exact List.map_eq_flatMap.symm

theorem uploadedObject_eq_iff {path other : String} (plain : PlainName storage path)
    (plain' : PlainName storage other) :
    storage.service.uploadedObject path = storage.service.uploadedObject other ↔
      readName path = readName other := by
  rw [← basename_of_plain plain, ← basename_of_plain plain', Option.some.injEq]
  unfold StorageService.uploadedObject
  rw [String.append_right_inj, getFileName_eq, getFileName_eq, String.ofList_inj]

end Links

theorem uploadFiles_of_other (service : StorageService) (storage : Storage)
    {files : List PickedFile} {object : String}
    (other : ∀ file ∈ uploaded files, service.uploadedObject file.path ≠ object) :
    (uploadFiles service storage files).1 object = storage object := by
  induction files generalizing storage with
  | nil => rfl
  | cons file rest ih =>
      unfold uploadFiles
      by_cases uploads : file.uploads = true
      · have split : uploaded (file :: rest) = file :: uploaded rest :=
          List.filter_cons_of_pos uploads
        rw [split] at other
        rw [if_pos uploads]
        dsimp only
        rw [ih _ fun later member => other later (List.mem_cons_of_mem _ member)]
        exact Function.update_of_ne (other file List.mem_cons_self).symm _ _
      · have split : uploaded (file :: rest) = uploaded rest :=
          List.filter_cons_of_neg uploads
        rw [split] at other
        rw [if_neg uploads]
        exact ih _ other

theorem uploadFiles_contents (service : StorageService) (storage : Storage)
    {files : List PickedFile}
    (apart : (uploaded files).Pairwise fun file other =>
      service.uploadedObject file.path ≠ service.uploadedObject other.path) :
    ∀ file ∈ uploaded files,
      (uploadFiles service storage files).1 (service.uploadedObject file.path) =
        some file.content := by
  induction files generalizing storage with
  | nil =>
      intro file member
      exact absurd member List.not_mem_nil
  | cons first rest ih =>
      intro file member
      unfold uploadFiles
      by_cases uploads : first.uploads = true
      · have split : uploaded (first :: rest) = first :: uploaded rest :=
          List.filter_cons_of_pos uploads
        rw [split] at apart member
        obtain ⟨others, later⟩ := List.pairwise_cons.mp apart
        rw [if_pos uploads]
        dsimp only
        rcases List.mem_cons.mp member with now | inRest
        · rw [now, uploadFiles_of_other service _ fun other inside same =>
            others other inside same.symm]
          exact Function.update_self ..
        · exact ih _ later file inRest
      · have split : uploaded (first :: rest) = uploaded rest :=
          List.filter_cons_of_neg uploads
        rw [split] at apart member
        rw [if_neg uploads]
        exact ih _ apart file member

/-- The files that are sent keep their identity exactly when their names are plain and, read
without escapes, differ. -/
theorem chatFileIdentity_iff (storage : FirebaseStorage) (files : List PickedFile) :
    KeepsIdentity storage files ↔ PlainAndDistinct storage files := by
  have named : (∀ file ∈ uploaded files,
      storage.service.getChatFileName
          (storage.service.getDownloadURL (storage.service.uploadedObject file.path)
            file.token) =
        storage.service.getFileName file.path) ↔
      ∀ file ∈ uploaded files, PlainName storage file.path :=
    forall₂_congr fun file _ => getChatFileName_eq_iff file.path file.token
  have apart (plain : ∀ file ∈ uploaded files, PlainName storage file.path) :
      ((uploaded files).Pairwise fun file other =>
          storage.service.uploadedObject file.path ≠ storage.service.uploadedObject other.path) ↔
        (uploaded files).Pairwise fun file other => readName file.path ≠ readName other.path := by
    apply List.Pairwise.iff_of_mem
    intro file other member member'
    exact not_congr (uploadedObject_eq_iff (plain file member) (plain other member'))
  constructor
  · intro keeps
    have plain := named.mp keeps.named
    exact ⟨plain, (apart plain).mp keeps.apart⟩
  · intro condition
    exact ⟨(apart condition.plain).mpr condition.distinct, named.mpr condition.plain⟩

def strictEncoder : Encoder where
  keeps := unreserved
  unreserved_kept := fun _ plain => plain
  kept_allowed := by
    intro char plain
    unfold queryChar
    rw [plain]
    rfl
  marks_escaped := List.all_iff_forall_prop.mp (by decide)

def chatStorage : FirebaseStorage where
  host := "firebasestorage.googleapis.com".toList
  bucket := "chat.appspot.com".toList
  encoder := strictEncoder
  host_plain := List.all_iff_forall_prop.mp (by decide)
  bucket_plain := List.all_iff_forall_prop.mp (by decide)

def pickedFile (path : String) : PickedFile :=
  { path := path, content := path, token := "", uploads := true }

/-- Two files of one name, and one with a space in its name. -/
theorem same_names_and_spaces_lose_identity :
    ¬ KeepsIdentity chatStorage
        [pickedFile "/cache/1/photo.png", pickedFile "/cache/2/photo.png"] ∧
      ¬ KeepsIdentity chatStorage [pickedFile "/cache/my photo.png"] := by
  constructor
  · intro keeps
    have apart := (List.pairwise_pair.mp keeps.apart)
    exact apart (by decide)
  · intro keeps
    have shown := keeps.named _ List.mem_cons_self
    rw [getChatFileName_eq_iff, ← keeps_basename_iff] at shown
    exact absurd (shown '%' (by decide)) (by decide)

end FiksOpp.Chat
