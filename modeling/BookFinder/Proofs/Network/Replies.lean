import BookFinder.Network.Exchange

/-! # What a reply brings

A reply breaks off or brings a status and a text. The text is that of the body, after this has been
unpacked and in the character set that it names. -/

namespace BookFinder

namespace Network

/-! ## Texts -/

def IsUnmarked (bytes : List UInt8) : Prop :=
  ∀ mark ∈ [[0xEF, 0xBB, 0xBF], [0xFF, 0xFE], [0xFE, 0xFF]], ¬ mark <+: bytes

/-- The text of bytes: in the character set of their mark, else in that of the media type, else in
UTF-8. -/
inductive Reads (codecs : Codecs) (headers : Headers) : List UInt8 → String → Prop
  | utf8Mark (rest : List UInt8) : Reads codecs headers (0xEF :: 0xBB :: 0xBF :: rest)
      (String.ofList (Text.Utf8.decodeLenient rest))
  | littleMark (rest : List UInt8) :
      Reads codecs headers (0xFF :: 0xFE :: rest) (String.ofList (Decoder.utf16 false rest))
  | bigMark (rest : List UInt8) :
      Reads codecs headers (0xFE :: 0xFF :: rest) (String.ofList (Decoder.utf16 true rest))
  | labelled {bytes : List UInt8} {label : List Char} {decode : Decoder}
      (hmark : IsUnmarked bytes) (h : BodyText.label headers = some label)
      (hlabel : Decoder.ofLabel codecs label = some decode) :
      Reads codecs headers bytes (String.ofList (decode bytes))
  | unlabelled {bytes : List UInt8} (hmark : IsUnmarked bytes)
      (h : ∀ label, BodyText.label headers = some label → Decoder.ofLabel codecs label = none) :
      Reads codecs headers bytes (String.ofList (Text.Utf8.decodeLenient bytes))

theorem byteOrderMark_eq_none_iff {bytes : List UInt8} :
    BodyText.byteOrderMark bytes = none ↔ IsUnmarked bytes := by
  simp only [IsUnmarked, List.forall_mem_cons, List.not_mem_nil, false_imp_iff, implies_true,
    and_true]
  constructor
  · intro h
    refine ⟨?_, ?_, ?_⟩ <;>
      · rintro ⟨rest, rfl⟩
        simp [BodyText.byteOrderMark] at h
  · rintro ⟨hutf8, hlittle, hbig⟩
    rw [BodyText.byteOrderMark.eq_def]
    split
    · exact absurd (by simp) hutf8
    · exact absurd (by simp) hlittle
    · exact absurd (by simp) hbig
    · rfl

theorem read_of_unmarked {codecs : Codecs} {headers : Headers} {bytes : List UInt8}
    (h : IsUnmarked bytes) :
    BodyText.read codecs headers bytes = String.ofList
      ((((BodyText.label headers).bind (Decoder.ofLabel codecs)).getD Text.Utf8.decodeLenient)
        bytes) := by
  rw [BodyText.read, byteOrderMark_eq_none_iff.mpr h]

theorem Reads.read_eq {codecs : Codecs} {headers : Headers} {bytes : List UInt8} {text : String}
    (h : Reads codecs headers bytes text) : BodyText.read codecs headers bytes = text := by
  cases h with
  | utf8Mark => rfl
  | littleMark => rfl
  | bigMark => rfl
  | labelled hmark h hlabel => rw [read_of_unmarked hmark, h, Option.bind_some, hlabel]; rfl
  | unlabelled hmark h =>
      rw [read_of_unmarked hmark]
      cases hlabel : BodyText.label headers with
      | none => rfl
      | some label => rw [Option.bind_some, h label hlabel]; rfl

theorem reads_read (codecs : Codecs) (headers : Headers) (bytes : List UInt8) :
    Reads codecs headers bytes (BodyText.read codecs headers bytes) := by
  by_cases hmark : IsUnmarked bytes
  · rw [read_of_unmarked hmark]
    cases hlabel : BodyText.label headers with
    | none => exact .unlabelled hmark (by simp [hlabel])
    | some label =>
        rw [Option.bind_some]
        cases hdecode : Decoder.ofLabel codecs label with
        | some decode => exact .labelled hmark hlabel hdecode
        | none =>
            refine .unlabelled hmark ?_
            intro other hother
            rwa [← Option.some.inj (hlabel.symm.trans hother)]
  · rw [← byteOrderMark_eq_none_iff, BodyText.byteOrderMark.eq_def] at hmark
    split at hmark
    · exact .utf8Mark _
    · exact .littleMark _
    · exact .bigMark _
    · exact absurd rfl hmark

/-! ## Replies -/

/-- How a body is packed, by what unpacks it. -/
inductive Packs (codecs : Codecs) (headers : Headers) : (List UInt8 → Option (List UInt8)) → Prop
  | gzip (h : "gzip" ∈ headers.values "content-encoding") : Packs codecs headers codecs.gunzip
  | brotli (h : "br" ∈ headers.values "content-encoding")
      (hgzip : "gzip" ∉ headers.values "content-encoding") :
      Packs codecs headers codecs.unbrotli

/-- A body comes as it is; nothing is always that. -/
def IsPlain (headers : Headers) (body : List UInt8) : Prop :=
  ("gzip" ∉ headers.values "content-encoding" ∧ "br" ∉ headers.values "content-encoding") ∨
    body = []

/-- A reply that the client takes as it comes: the connection is closed, or the answer is no interim
one and does not send the client elsewhere. -/
inductive IsFinal (sender : Sender) (url : Url) : Reply → Prop
  | dropped : IsFinal sender url .dropped
  | answer {status : Nat} {headers : Headers} {body : List UInt8} {missing : Nat}
      (hstatus : 200 ≤ status) (hstay : sender.redirection url status headers = none) :
      IsFinal sender url (.answer status headers body missing)

/-- A reply without a complete answer: none at all, or one whose body is cut off or cannot be
unpacked. -/
inductive Breaks (codecs : Codecs) : Reply → Prop
  | dropped : Breaks codecs .dropped
  | cut {status : Nat} {headers : Headers} {body : List UInt8} {missing : Nat}
      (hbody : status ≠ 204 ∧ status ≠ 304) (hplain : IsPlain headers body)
      (hmissing : 0 < missing) : Breaks codecs (.answer status headers body missing)
  | damaged {status : Nat} {headers : Headers} {body : List UInt8} {missing : Nat}
      {unpack : List UInt8 → Option (List UInt8)} (hbody : status ≠ 204 ∧ status ≠ 304)
      (hpacked : Packs codecs headers unpack) (hne : body ≠ []) (hdamaged : unpack body = none) :
      Breaks codecs (.answer status headers body missing)

/-- A complete answer, with its status and the text of its body. Where there is no body, nothing of
it can be missing, and nothing that counts is missing after what has been unpacked. -/
inductive Brings (codecs : Codecs) : Reply → Nat → String → Prop
  | bodiless {status : Nat} {headers : Headers} {body : List UInt8} {missing : Nat}
      (hbody : status = 204 ∨ status = 304) :
      Brings codecs (.answer status headers body missing) status ""
  | whole {status : Nat} {headers : Headers} {body : List UInt8} {text : String}
      (hbody : status ≠ 204 ∧ status ≠ 304) (hplain : IsPlain headers body)
      (htext : Reads codecs headers body text) :
      Brings codecs (.answer status headers body 0) status text
  | unpacked {status : Nat} {headers : Headers} {body bytes : List UInt8} {missing : Nat}
      {unpack : List UInt8 → Option (List UInt8)} {text : String}
      (hbody : status ≠ 204 ∧ status ≠ 304) (hpacked : Packs codecs headers unpack)
      (hne : body ≠ []) (hunpack : unpack body = some bytes)
      (htext : Reads codecs headers bytes text) :
      Brings codecs (.answer status headers body missing) status text

theorem hasNoBody_eq_true_iff {status : Nat} :
    Status.hasNoBody status = true ↔ status = 204 ∨ status = 304 := by
  simp [Status.hasNoBody]

theorem isSuccess_eq_true_iff {status : Nat} :
    Status.isSuccess status = true ↔ 200 ≤ status ∧ status < 300 := by
  simp [Status.isSuccess]

section Reply

variable {sender : Sender} {headers : Headers} {body : List UInt8} {missing : Nat}

def Sender.documentOf (sender : Sender) : Reply → Option Document
  | .dropped => none
  | .answer status headers body missing => sender.document? status headers body missing

theorem Packs.unpacking_eq {unpack : List UInt8 → Option (List UInt8)}
    (h : Packs sender.codecs headers unpack) : sender.unpacking headers = some unpack := by
  cases h with
  | gzip h => simp [Sender.unpacking, h]
  | brotli h hgzip => simp [Sender.unpacking, h, hgzip]

theorem packs_or_plain (codecs : Codecs) (headers : Headers) (body : List UInt8) :
    IsPlain headers body ∨ body ≠ [] ∧ ∃ unpack, Packs codecs headers unpack := by
  by_cases hbody : body = []
  · exact .inl (.inr hbody)
  by_cases hgzip : "gzip" ∈ headers.values "content-encoding"
  · exact .inr ⟨hbody, _, .gzip hgzip⟩
  by_cases hbrotli : "br" ∈ headers.values "content-encoding"
  · exact .inr ⟨hbody, _, .brotli hbrotli hgzip⟩
  · exact .inl (.inl ⟨hgzip, hbrotli⟩)

theorem IsPlain.content_eq (h : IsPlain headers body) (missing : Nat) :
    sender.content headers body missing = if missing = 0 then some body else none := by
  rcases h with ⟨hgzip, hbrotli⟩ | rfl
  · simp [Sender.content, Sender.unpacking, hgzip, hbrotli]
  · rw [Sender.content]
    split <;> rfl

theorem Packs.content_eq {unpack : List UInt8 → Option (List UInt8)}
    (h : Packs sender.codecs headers unpack) (hne : body ≠ []) :
    sender.content headers body missing = unpack body := by
  simp [Sender.content, h.unpacking_eq, hne]

theorem Sender.document?_of_body {status : Nat} (hbody : status ≠ 204 ∧ status ≠ 304) :
    sender.document? status headers body missing =
      (sender.content headers body missing).map fun bytes =>
        { status, body := BodyText.read sender.codecs headers bytes } := by
  rw [Sender.document?, if_neg (mt hasNoBody_eq_true_iff.mp (not_or.mpr hbody))]

theorem Breaks.documentOf_eq {reply : Reply} (h : Breaks sender.codecs reply) :
    sender.documentOf reply = none := by
  cases h with
  | dropped => rfl
  | cut hbody hplain hmissing =>
      rw [Sender.documentOf, Sender.document?_of_body hbody, hplain.content_eq,
        if_neg (Nat.pos_iff_ne_zero.mp hmissing), Option.map_none]
  | damaged hbody hpacked hne hdamaged =>
      rw [Sender.documentOf, Sender.document?_of_body hbody, hpacked.content_eq hne, hdamaged,
        Option.map_none]

theorem Brings.documentOf_eq {reply : Reply} {status : Nat} {text : String}
    (h : Brings sender.codecs reply status text) :
    sender.documentOf reply = some ⟨status, text⟩ := by
  cases h with
  | bodiless hbody =>
      rw [Sender.documentOf, Sender.document?, if_pos (hasNoBody_eq_true_iff.mpr hbody)]
  | whole hbody hplain htext =>
      rw [Sender.documentOf, Sender.document?_of_body hbody, hplain.content_eq, if_pos rfl,
        Option.map_some, htext.read_eq]
  | unpacked hbody hpacked hne hunpack htext =>
      rw [Sender.documentOf, Sender.document?_of_body hbody, hpacked.content_eq hne, hunpack,
        Option.map_some, htext.read_eq]

theorem Brings.status_eq {codecs : Codecs} {status other : Nat} {text : String}
    (h : Brings codecs (.answer status headers body missing) other text) : other = status := by
  cases h <;> rfl

theorem breaks_or_brings (codecs : Codecs) (reply : Reply) :
    Breaks codecs reply ∨ ∃ status text, Brings codecs reply status text := by
  cases reply with
  | dropped => exact .inl .dropped
  | answer status headers body missing =>
      by_cases hbody : status = 204 ∨ status = 304
      · exact .inr ⟨status, "", .bodiless hbody⟩
      have hsome := not_or.mp hbody
      rcases packs_or_plain codecs headers body with hplain | ⟨hne, unpack, hpacked⟩
      · cases missing with
        | zero => exact .inr ⟨status, _, .whole hsome hplain (reads_read ..)⟩
        | succ missing => exact .inl (.cut hsome hplain (Nat.succ_pos missing))
      · cases hunpack : unpack body with
        | none => exact .inl (.damaged hsome hpacked hne hunpack)
        | some bytes => exact .inr ⟨status, _, .unpacked hsome hpacked hne hunpack (reads_read ..)⟩

end Reply

/-! ## One request -/

section Get

variable {network : Network} {sender : Sender} {url : Url}

/-- After a final reply no other request is sent. -/
theorem Sender.get_of_final {server : Server} (hserver : sender.server network url = some server)
    (hfinal : IsFinal sender url (server (sender.request url))) (redirects : Nat) :
    sender.get network redirects url =
      { document := sender.documentOf (server (sender.request url))
        requests := [sender.request url] } := by
  rw [Sender.get, hserver]
  generalize hreply : server (sender.request url) = reply at hfinal
  cases hfinal with
  | dropped =>
      simp only [hreply]
      rfl
  | answer hstatus hstay =>
      simp only [hreply, hstay]
      rfl

end Get

end Network

end BookFinder
