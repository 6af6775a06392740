import BookFinder.Proofs.Url.Sendable
import Mathlib.Data.List.TakeDrop
import Mathlib.Data.List.TakeWhile

/-! # Base URLs of a server on this machine -/

namespace BookFinder.Url

/-! ## Stripping -/

theorem dropWhile_append_of_head {p : Char → Bool} {cs : List Char} (hne : cs ≠ [])
    (h : ∀ c ∈ cs, p c = false) (more : List Char) : (cs ++ more).dropWhile p = cs ++ more := by
  cases cs with
  | nil => exact absurd rfl hne
  | cons c cs =>
      rw [List.cons_append, List.dropWhile_cons_of_neg]
      simp [h c (by simp)]

theorem strip_append {front : List Char} (hne : front ≠ [])
    (h : ∀ c ∈ front, isSpaceOrControl c = false) (rest : List Char) :
    ∃ kept, strip (front ++ rest) = front ++ kept := by
  have hreverse : ∀ c ∈ front.reverse, isSpaceOrControl c = false := by
    intro c hc
    exact h c (List.mem_reverse.mp hc)
  have hend := dropWhile_append_of_head (by simpa using hne) hreverse []
  have hfilter : front.filter (!isTabOrNewline ·) = front := by
    rw [List.filter_eq_self]
    intro c hc
    have hother {d : Char} (hd : isSpaceOrControl d = true) : c ≠ d := by
      rintro rfl
      simp [h c hc] at hd
    simp [isTabOrNewline, hother (d := '\t') (by decide), hother (d := '\n') (by decide),
      hother (d := '\r') (by decide)]
  rw [List.append_nil] at hend
  rw [strip, dropWhile_append_of_head hne h, List.reverse_append, List.dropWhile_append]
  split
  · refine ⟨[], ?_⟩
    rw [hend, List.reverse_reverse, hfilter, List.append_nil]
  · refine ⟨(rest.reverse.dropWhile isSpaceOrControl).reverse.filter (!isTabOrNewline ·), ?_⟩
    rw [List.reverse_append, List.reverse_reverse, List.filter_append, hfilter]

/-! ## The authority -/

theorem takeHost_append {name : List Char} (h : ∀ c ∈ name, c ≠ ':' ∧ c ≠ '[' ∧ c ≠ ']')
    (rest : List Char) : takeHost false (name ++ ':' :: rest) = name := by
  induction name with
  | nil => simp [takeHost]
  | cons c name ih =>
      obtain ⟨hcolon, hopen, hclose⟩ := h c (by simp)
      rw [List.cons_append, takeHost, if_neg (by simp [hcolon]), if_neg hopen, if_neg hclose,
        ih (fun d hd => h d (by simp [hd]))]

/-! ## Servers on this machine -/

def loopbackHost : List Char := ['1', '2', '7', '.', '0', '.', '0', '.', '1']

/-- The host and TCP port of a server on this machine. -/
def loopback (tcpPort : UInt16) : List Char :=
  loopbackHost ++ ':' :: Text.renderNat tcpPort.toNat

theorem forall_mem_loopback {P : Char → Prop} (hhost : ∀ c ∈ loopbackHost, P c) (hcolon : P ':')
    (hdigit : ∀ c : Char, c.isDigit = true → P c) (tcpPort : UInt16) :
    ∀ c ∈ loopback tcpPort, P c := by
  intro c hc
  rw [loopback, List.mem_append, List.mem_cons] at hc
  rcases hc with hc | rfl | hc
  · exact hhost c hc
  · exact hcolon
  · exact hdigit c (Text.isDigit_of_mem_renderNat hc)

theorem readTcpPort_renderNat (tcpPort : UInt16) :
    ∃ kept, readTcpPort ['h', 't', 't', 'p'] (Text.renderNat tcpPort.toNat) = .ok kept ∧
      (kept = none ∨ kept = some tcpPort.toNat) ∧ kept.getD 80 = tcpPort.toNat := by
  have hdigits : ∀ c ∈ Text.renderNat tcpPort.toNat, c.isDigit = true := fun _ hc =>
    Text.isDigit_of_mem_renderNat hc
  have hspan : (Text.renderNat tcpPort.toNat).span Char.isDigit =
      (Text.renderNat tcpPort.toNat, []) := by
    rw [List.span_eq_takeWhile_dropWhile, List.takeWhile_eq_self_iff.mpr hdigits,
      List.dropWhile_eq_nil_iff.mpr hdigits]
  have hvalue : Nat.ofDigitChars 10 (Text.renderNat tcpPort.toNat) 0 = tcpPort.toNat :=
    Nat.ofDigitChars_toDigits (by decide) (by decide)
  have hempty : (Text.renderNat tcpPort.toNat).isEmpty = false := by
    rw [List.isEmpty_eq_false_iff]
    exact Text.renderNat_ne_nil _
  have hbound : ¬ 65535 < tcpPort.toNat := by
    have hlt := tcpPort.toNat_lt
    omega
  have hdefault : defaultPort ['h', 't', 't', 'p'] = some 80 := by decide
  simp only [readTcpPort, hspan, hvalue, if_neg hbound, hempty, Bool.false_or, beq_iff_eq, hdefault]
  refine ⟨_, rfl, ?_⟩
  split
  · rename_i hsame
    exact ⟨.inl rfl, Option.some.inj hsame⟩
  · exact ⟨.inr rfl, rfl⟩

theorem parse_loopbackHost (international : International) :
    Host.parse international loopbackHost = .ok (.ipv4 2130706433) := by
  have hname : Domain.toAscii international (Text.Percent.decodeLenient loopbackHost) =
      some loopbackHost := by
    have hdecoded : Text.Percent.decodeLenient loopbackHost = loopbackHost := by decide
    have hlower : loopbackHost.map Char.toLower = loopbackHost := by decide
    rw [hdecoded, Domain.toAscii, if_pos (by decide), hlower]
    exact if_neg (by decide)
  have hnumber : Address.endsInNumber loopbackHost = true := by decide
  have hvalue : Address.readIpv4 loopbackHost = some 2130706433 := by decide
  rw [Host.parse, if_neg (by decide), hname]
  simp only [loopbackHost] at hnumber hvalue ⊢
  rw [if_pos hnumber, hvalue]

/-- The URL of a server on this machine. -/
structure IsLoopback (url : Url) (tcpPort : UInt16) : Prop where
  scheme : url.scheme = ['h', 't', 't', 'p']
  username : url.username = []
  password : url.password = []
  host : url.host = some (.ipv4 2130706433)
  written : url.tcpPort = none ∨ url.tcpPort = some tcpPort.toNat
  tcpPort : url.tcpPort.getD 80 = tcpPort.toNat
  clean : url.IsClean

section Parse

variable (international : International) (tcpPort : UInt16)

theorem readAuthority_loopback :
    ∃ kept, readAuthority international ['h', 't', 't', 'p'] (loopback tcpPort) =
        .ok { host := .ipv4 2130706433, tcpPort := kept } ∧
      (kept = none ∨ kept = some tcpPort.toNat) ∧ kept.getD 80 = tcpPort.toNat := by
  have hat : '@' ∉ loopback tcpPort := by
    intro hmem
    have hother := forall_mem_loopback (P := (· ≠ '@')) (by simp [loopbackHost]) (by simp)
      (fun c hc => Text.ne_of_isDigit hc (by decide)) tcpPort
    exact hother '@' hmem rfl
  have hsplit : Text.splitAt (· == '@') (Text.joinWith '@' [loopback tcpPort]) =
      [loopback tcpPort] := Text.splitAt_joinWith (by simp) (by simpa using hat)
  have hinfo : splitAtLastAt (loopback tcpPort) = none := by
    rw [Text.joinWith] at hsplit
    rw [splitAtLastAt, hsplit]
  have hname : takeHost false (loopback tcpPort) = loopbackHost :=
    takeHost_append (by simp [loopbackHost]) _
  have hdrop : (loopback tcpPort).drop loopbackHost.length = ':' :: Text.renderNat tcpPort.toNat :=
    List.drop_left
  have hspecial : isSpecialScheme ['h', 't', 't', 'p'] = true := by decide
  obtain ⟨kept, hport, hkept⟩ := readTcpPort_renderNat tcpPort
  refine ⟨kept, ?_, hkept⟩
  simp only [readAuthority, hinfo, hname, hspecial, hdrop, parse_loopbackHost, hport]
  rfl

theorem readAfterSlashes_loopback (path : List Char) :
    ∃ url, readAfterSlashes international ['h', 't', 't', 'p'] (loopback tcpPort ++ '/' :: path) =
        .ok url ∧ url.IsLoopback tcpPort := by
  have hspecial : isSpecialScheme ['h', 't', 't', 'p'] = true := by decide
  have hinside : ∀ c ∈ loopback tcpPort, (!endsAuthority true c) = true := by
    have hhost : loopbackHost.all (!endsAuthority true ·) = true := by decide
    refine forall_mem_loopback (List.all_eq_true.mp hhost) (by decide) ?_ tcpPort
    intro c hc
    simp [endsAuthority, isSlash, Text.ne_of_isDigit hc (d := '/') (by decide),
      Text.ne_of_isDigit hc (d := '\\') (by decide), Text.ne_of_isDigit hc (d := '?') (by decide),
      Text.ne_of_isDigit hc (d := '#') (by decide)]
  have hslash : ∀ c ∈ ('/' :: path).head?, (!endsAuthority true c) = false := by
    simp [endsAuthority, isSlash]
  have htext := (Text.span_append hinside hslash).1
  have hdrop : (loopback tcpPort ++ '/' :: path).drop (loopback tcpPort).length = '/' :: path :=
    List.drop_left
  obtain ⟨kept, hauthority, hwritten, hkept⟩ := readAuthority_loopback international tcpPort
  simp only [readAfterSlashes, hspecial, htext, hdrop, hauthority]
  have hpath := clean_readPathAfterHost true false (readTail true ('/' :: path)).path
  refine ⟨_, rfl, rfl, rfl, rfl, rfl, hwritten, hkept, hpath, ?_⟩
  intro query hquery
  exact isQueryChar_of_readTail hquery

/-- A base URL of this machine is accepted, whatever its path. -/
theorem parse_loopback (path : List Char) :
    ∃ url, parseChars international ("http://".toList ++ loopback tcpPort ++ '/' :: path) =
        .ok url ∧ url.IsLoopback tcpPort := by
  have hinside : ∀ c ∈ loopback tcpPort, isSpaceOrControl c = false := by
    refine forall_mem_loopback (by simp [loopbackHost, isSpaceOrControl]) (by decide) ?_ tcpPort
    intro c hc
    have hlow : 48 ≤ c.toNat := (Char.isDigit_iff_toNat.mp hc).1
    simp [isSpaceOrControl]
    omega
  have hfront : ∀ c ∈ "http://".toList ++ loopback tcpPort ++ ['/'],
      isSpaceOrControl c = false := by
    intro c hc
    simp only [List.mem_append] at hc
    rcases hc with (hc | hc) | hc
    · have hscheme : ∀ d ∈ "http://".toList, isSpaceOrControl d = false := by
        simp [isSpaceOrControl]
      exact hscheme c hc
    · exact hinside c hc
    · rw [List.mem_singleton.mp hc]
      decide
  obtain ⟨kept, hstrip⟩ := strip_append (by simp) hfront path
  have hscheme : readScheme ("http://".toList ++ loopback tcpPort ++ ['/'] ++ kept) =
      some (['h', 't', 't', 'p'], '/' :: '/' :: (loopback tcpPort ++ '/' :: kept)) := by
    have hletters : "http://".toList = ['h', 't', 't', 'p', ':', '/', '/'] := by decide
    rw [hletters, List.append_assoc _ ['/'], List.append_assoc]
    rfl
  have hslashes : ('/' :: '/' :: (loopback tcpPort ++ '/' :: kept)).dropWhile (isSlash true) =
      loopback tcpPort ++ '/' :: kept := rfl
  have hfile : isFileScheme ['h', 't', 't', 'p'] = false := by decide
  have hspecial : isSpecialScheme ['h', 't', 't', 'p'] = true := by decide
  obtain ⟨url, hread, hurl⟩ := readAfterSlashes_loopback international tcpPort kept
  refine ⟨url, ?_, hurl⟩
  rw [List.append_cons, parseChars, hstrip, hscheme]
  simp only [hfile, hspecial, hslashes, hread]
  rfl

end Parse

/-! ## What is sent to them -/

section IsLoopback

variable {url : Url} {tcpPort : UInt16}

theorem IsLoopback.extendPath (h : url.IsLoopback tcpPort) (texts : List (List Char)) :
    (url.extendPath texts).IsLoopback tcpPort := by
  obtain ⟨list, hpath, -⟩ := h.clean.path
  have hclean := h.clean.extendPath texts
  rw [Url.extendPath, hpath] at hclean ⊢
  exact ⟨h.scheme, h.username, h.password, h.host, h.written, h.tcpPort, hclean⟩

theorem IsLoopback.isHttp (h : url.IsLoopback tcpPort) : url.IsHttp := .inl h.scheme

theorem IsLoopback.endpoint (h : url.IsLoopback tcpPort) :
    Network.Endpoint.ofUrl url = some ⟨"http", "127.0.0.1", tcpPort.toNat⟩ := by
  have hsecure := isSecure_of_http h.scheme
  have haddress : String.ofList (renderIpv4 2130706433) = "127.0.0.1" := by decide
  have hport := h.tcpPort
  simp only [Network.Endpoint.ofUrl, hasHost, h.host, hsecure, Host.render, haddress]
  simp [hport]

theorem IsLoopback.withoutUserInfo (h : url.IsLoopback tcpPort) :
    Network.Sender.withoutUserInfo url = url := by
  have hname : Text.Percent.decode? [] = some [] := by decide
  simp [Network.Sender.withoutUserInfo, h.username, h.password, hname]

theorem isHost_loopback {digits : List Char} (h : ∀ c ∈ digits, c.isDigit = true) :
    Web.Target.isHost (loopbackHost ++ ':' :: digits) = true := by
  have hdigit (scan : Web.Target.HostScan) {c : Char} (hc : c.isDigit = true) :
      scan.step c = some { scan with afterAt := false } := by
    have hname : Web.Target.isHostChar c = true := by
      simp [Web.Target.isHostChar, Char.isAlphanum, hc]
    simp [Web.Target.HostScan.step, hname, Text.ne_of_isDigit hc (d := ':') (by decide),
      Text.ne_of_isDigit hc (d := '[') (by decide), Text.ne_of_isDigit hc (d := ']') (by decide),
      Text.ne_of_isDigit hc (d := '@') (by decide), Text.ne_of_isDigit hc (d := '%') (by decide)]
  have hdigits : digits.foldlM Web.Target.HostScan.step { colons := 1 } =
      some { colons := 1 } := by
    induction digits with
    | nil => rfl
    | cons c digits ih =>
        rw [List.foldlM_cons, hdigit _ (h c List.mem_cons_self)]
        exact ih fun d hd => h d (List.mem_cons_of_mem c hd)
  have hfront : (loopbackHost ++ [':']).foldlM Web.Target.HostScan.step {} =
      some { colons := 1 } := rfl
  rw [Web.Target.isHost, List.append_cons, List.foldlM_append, hfront]
  simp only [Option.bind_eq_bind, Option.bind_some, hdigits]
  rfl

/-- A URL of this machine can be sent exactly if it is short enough. -/
theorem IsLoopback.isSendable_iff (h : url.IsLoopback tcpPort) :
    Network.Sender.isSendable url = true ↔
      (Text.Utf8.encode url.render).length ≤ Web.Target.maxLength := by
  have hrender : Host.render (.ipv4 2130706433) = loopbackHost := by decide
  have hinfo : url.renderUserInfo = [] := by
    rw [renderUserInfo, h.username, h.password]
    rfl
  have hdigits : ∀ c ∈ Text.renderNat tcpPort.toNat, c.isDigit = true := fun _ hc =>
    Text.isDigit_of_mem_renderNat hc
  have hauthority : Network.Sender.authority url (.ipv4 2130706433) = loopbackHost ∨
      Network.Sender.authority url (.ipv4 2130706433) = loopback tcpPort := by
    rw [Network.Sender.authority, hinfo, hrender, renderTcpPort]
    rcases h.written with hport | hport
    · exact .inl (by rw [hport]; rfl)
    · exact .inr (by rw [hport]; rfl)
  have hends {c : Char} (hc : c.isDigit = true) : Web.Target.endsHost c = false := by
    simp [Web.Target.endsHost, Text.ne_of_isDigit hc (d := '/') (by decide),
      Text.ne_of_isDigit hc (d := '?') (by decide), Text.ne_of_isDigit hc (d := '#') (by decide)]
  have hhost : ∀ c ∈ loopbackHost, Web.Target.endsHost c = false := by
    simp [loopbackHost, Web.Target.endsHost]
  refine Network.Sender.isSendable_iff h.isHttp h.clean h.host ?_ ?_ ?_
  · rcases hauthority with heq | heq <;> rw [heq]
    · decide
    · exact isHost_loopback hdigits
  · rcases hauthority with heq | heq <;> rw [heq] <;> simp [loopback, loopbackHost]
  · rcases hauthority with heq | heq <;> rw [heq]
    · exact hhost
    · exact forall_mem_loopback hhost (by decide) (fun _ hc => hends hc) tcpPort

end IsLoopback

end BookFinder.Url
