import JotaTranscriber.Regex
import JotaTranscriber.Decimal
import JotaTranscriber.ApiAuthClient

-- The URL of the auth API, and what is made of it.
namespace JotaTranscriber.AuthUrl
open Regex
open Decimal (isDigit)

inductive UrlGroup where
  | scheme
  | host
  | port
  | path
  deriving DecidableEq, Repr

def colon : UInt8 := 58
def slash : UInt8 := 47
def opening : UInt8 := 91
def closing : UInt8 := 93

-- The dot of ECMAScript does not match a line break.
def isDot (byte : UInt8) : Bool := byte != 10 && byte != 13

def schemePattern : Regex UInt8 UrlGroup :=
  .seq (.group .scheme (.seq (word (bytes "http")) (.opt (word (bytes "s"))))) (word (bytes "://"))

def bracketPattern : Regex UInt8 UrlGroup :=
  .seq (word [opening]) (.seq (plus (· != closing)) (word [closing]))

def namePattern : Regex UInt8 UrlGroup := plus fun byte => byte != slash && byte != colon

def tailPattern : Regex UInt8 UrlGroup :=
  .seq (.opt (.seq (word [colon]) (.group .port (plus isDigit))))
    (.opt (.group .path (.seq (word [slash]) (.star isDot))))

def hostPattern : Regex UInt8 UrlGroup := .group .host (.alt bracketPattern namePattern)

-- ^(https?)://(\[[^\]]+\]|[^/:]+)(?::([0-9]+))?(/.*)?
def urlPattern : Regex UInt8 UrlGroup := .seq schemePattern (.seq hostPattern tailPattern)

structure ParsedUrl where
  scheme : Text
  host : Text
  port : Text
  basePath : Text
  deriving DecidableEq, Repr

def https : Text := bytes "https"

def defaultPort (scheme : Text) : Text := if scheme = https then bytes "443" else bytes "80"

def parseUrl (url : Text) : Option ParsedUrl :=
  (fullMatch urlPattern url).map fun found =>
    let scheme := (found.lookup .scheme).getD []
    let port := (found.lookup .port).getD []
    ⟨scheme,(found.lookup .host).getD [],if port.isEmpty then defaultPort scheme else port,
      (found.lookup .path).getD []⟩

-- Whether the host is an address in brackets is the first thing the pattern
-- tries.
inductive Host : Bool → Text → Prop where
  | address (filled : nested ≠ []) (free : closing ∉ nested) : Host true (opening :: nested ++ [closing])
  | name (filled : host ≠ []) (free : slash ∉ host ∧ colon ∉ host) : Host false host

def Scheme (scheme : Text) : Prop := scheme = bytes "http" ∨ scheme = https

def Port (port? : Option Text) : Prop :=
  ∀ digits ∈ port?, digits ≠ [] ∧ ∀ byte ∈ digits, isDigit byte = true

def Path (path : Text) : Prop := path = [] ∨ ∃ rest, path = slash :: rest ∧ ∀ byte ∈ rest, isDot byte = true

def suffix (port? : Option Text) (path : Text) : Text := port?.elim [] (colon :: ·) ++ path

structure Reading (bracketed : Bool) (url scheme host : Text) (port? : Option Text) (path : Text) :
    Prop where
  secure : Scheme scheme
  named : Host bracketed host
  digits : Port port?
  based : Path path
  spelled : url = scheme ++ bytes "://" ++ (host ++ suffix port? path)

def portCapture (port? : Option Text) : Captures UInt8 UrlGroup := port?.toList.map fun digits => (.port,digits)

def pathCapture (path : Text) : Captures UInt8 UrlGroup := if path.isEmpty then [] else [(.path,path)]

def captured (scheme host : Text) (port? : Option Text) (path : Text) : Captures UInt8 UrlGroup :=
  [(.scheme,scheme)] ++ ([(.host,host)] ++ (portCapture port? ++ pathCapture path))

def reading (bracketed : Bool) : Regex UInt8 UrlGroup :=
  .seq schemePattern
    (.seq (.group .host (if bracketed then bracketPattern else namePattern)) tailPattern)

theorem matches_scheme : Matches schemePattern text captures ↔ ∃ scheme, Scheme scheme ∧
    text = scheme ++ bytes "://" ∧ captures = [(.scheme,scheme)] := by
  have secure : https = bytes "http" ++ bytes "s" := by decide
  simp only [schemePattern,matches_seq,matches_group,matches_opt,matches_word]
  constructor
  · rintro ⟨_,_,_,_,⟨_,⟨_,_,_,_,⟨rfl,rfl⟩,last,rfl,rfl⟩,rfl⟩,⟨rfl,rfl⟩,rfl,rfl⟩
    rcases last with ⟨rfl,rfl⟩ | ⟨rfl,rfl⟩
    · exact ⟨_,.inl (List.append_nil _),rfl,rfl⟩
    · exact ⟨_,.inr secure.symm,rfl,rfl⟩
  · rintro ⟨scheme,kind,rfl,rfl⟩
    refine ⟨scheme,_,_,[],⟨[],?_,rfl⟩,⟨rfl,rfl⟩,rfl,rfl⟩
    rcases kind with rfl | rfl
    · exact ⟨_,[],[],[],⟨rfl,rfl⟩,.inl ⟨rfl,rfl⟩,(List.append_nil _).symm,rfl⟩
    · exact ⟨_,_,[],[],⟨rfl,rfl⟩,.inr ⟨rfl,rfl⟩,secure,rfl⟩

theorem matches_host (bracketed : Bool) :
    Matches (.group .host (if bracketed then bracketPattern else namePattern)) text captures ↔
      Host bracketed text ∧ captures = [(.host,text)] := by
  rw [matches_group]
  cases bracketed with
  | true =>
    simp only [if_true,bracketPattern,matches_seq,matches_word,matches_plus]
    constructor
    · rintro ⟨_,⟨_,_,_,_,⟨rfl,rfl⟩,⟨nested,_,_,_,⟨⟨filled,free⟩,rfl⟩,⟨rfl,rfl⟩,rfl,rfl⟩,rfl,rfl⟩,rfl⟩
      refine ⟨.address filled fun closed => ?_,rfl⟩
      have apart := free closing closed
      simp at apart
    · rintro ⟨⟨filled,free⟩,rfl⟩
      rename_i nested
      refine ⟨[],⟨[opening],nested ++ [closing],[],[],⟨rfl,rfl⟩,⟨nested,[closing],[],[],⟨⟨filled,?_⟩,rfl⟩,⟨rfl,rfl⟩,
        rfl,rfl⟩,rfl,rfl⟩,rfl⟩
      intro byte present
      simp only [bne_iff_ne,ne_eq]
      rintro rfl
      exact free present
  | false =>
    simp only [Bool.false_eq_true,if_false,namePattern,matches_plus,Bool.and_eq_true,bne_iff_ne]
    constructor
    · rintro ⟨_,⟨⟨filled,free⟩,rfl⟩,rfl⟩
      exact ⟨.name filled ⟨fun present => (free slash present).1 rfl,fun present => (free colon present).2 rfl⟩,rfl⟩
    · rintro ⟨named,rfl⟩
      obtain ⟨filled,free⟩ : text ≠ [] ∧ slash ∉ text ∧ colon ∉ text := by
        cases named with
        | name filled free => exact ⟨filled,free⟩
      refine ⟨[],⟨⟨filled,fun byte present => ⟨?_,?_⟩⟩,rfl⟩,rfl⟩
      · rintro rfl; exact free.1 present
      · rintro rfl; exact free.2 present

theorem matches_tail : Matches tailPattern text captures ↔ ∃ port? path, Port port? ∧ Path path ∧
    text = suffix port? path ∧ captures = portCapture port? ++ pathCapture path := by
  simp only [tailPattern,matches_seq,matches_opt,matches_group,matches_word,matches_plus,matches_star]
  constructor
  · rintro ⟨before,after,left,right,port,path,rfl,rfl⟩
    have ports : ∃ port?, Port port? ∧ before = Option.elim port? [] (colon :: ·) ∧
        left = portCapture port? := by
      rcases port with ⟨rfl,rfl⟩ | ⟨_,digits,_,_,⟨rfl,rfl⟩,⟨_,⟨number,rfl⟩,rfl⟩,rfl,rfl⟩
      · exact ⟨none,nofun,rfl,rfl⟩
      · exact ⟨some digits,fun _ same => Option.some.inj same ▸ number,rfl,rfl⟩
    obtain ⟨port?,number,rfl,rfl⟩ := ports
    rcases path with ⟨rfl,rfl⟩ | ⟨_,⟨_,rest,_,_,⟨rfl,rfl⟩,⟨dots,rfl⟩,rfl,rfl⟩,rfl⟩
    · exact ⟨port?,[],number,.inl rfl,rfl,rfl⟩
    · exact ⟨port?,slash :: rest,number,.inr ⟨rest,rfl,dots⟩,rfl,rfl⟩
  · rintro ⟨port?,path,number,based,rfl,rfl⟩
    refine ⟨_,path,_,_,?_,?_,rfl,rfl⟩
    · cases port? with
      | none => exact .inl ⟨rfl,rfl⟩
      | some digits =>
        exact .inr ⟨[colon],digits,[],_,⟨rfl,rfl⟩,⟨[],⟨number digits rfl,rfl⟩,rfl⟩,rfl,rfl⟩
    · rcases based with rfl | ⟨rest,rfl,dots⟩
      · exact .inl ⟨rfl,rfl⟩
      · exact .inr ⟨[],⟨[slash],rest,[],[],⟨rfl,rfl⟩,⟨dots,rfl⟩,rfl,rfl⟩,rfl⟩

theorem matches_reading (bracketed : Bool) : Matches (reading bracketed) url captures ↔
    ∃ scheme host port? path, Reading bracketed url scheme host port? path ∧
      captures = captured scheme host port? path := by
  simp only [reading,matches_seq _ tailPattern,matches_seq schemePattern,matches_scheme,
    matches_host,matches_tail]
  constructor
  · rintro ⟨_,_,_,_,⟨scheme,secure,rfl,rfl⟩,⟨host,_,_,_,⟨named,rfl⟩,⟨port?,path,digits,based,rfl,rfl⟩,rfl,rfl⟩,
      rfl,rfl⟩
    exact ⟨scheme,host,port?,path,⟨secure,named,digits,based,rfl⟩,rfl⟩
  · rintro ⟨scheme,host,port?,path,⟨secure,named,digits,based,rfl⟩,rfl⟩
    exact ⟨_,_,_,_,⟨scheme,secure,rfl,rfl⟩,⟨host,_,_,_,⟨named,rfl⟩,⟨port?,path,digits,based,rfl,rfl⟩,rfl,rfl⟩,
      rfl,rfl⟩

theorem span_unique {p : UInt8 → Bool} {left right rest later : Text}
    (all : ∀ byte ∈ left, p byte = true) (each : ∀ byte ∈ right, p byte = true)
    (ends : ∀ byte ∈ rest.head?, p byte = false) (stops : ∀ byte ∈ later.head?, p byte = false)
    (same : left ++ rest = right ++ later) : left = right ∧ rest = later := by
  have nothing {tail : Text} (ends : ∀ byte ∈ tail.head?, p byte = false) : tail.takeWhile p = [] := by
    cases tail with
    | nil => rfl
    | cons head tail => exact List.takeWhile_cons_of_neg (by rw [ends head rfl]; exact Bool.false_ne_true)
  have front := congrArg (List.takeWhile p) same
  rw [List.takeWhile_append_of_pos all,List.takeWhile_append_of_pos each,nothing ends,nothing stops,
    List.append_nil,List.append_nil] at front
  subst front
  exact ⟨rfl,List.append_cancel_left same⟩

theorem suffix_head (based : Path path) : ∀ byte ∈ (suffix port? path).head?, byte = colon ∨ byte = slash := by
  intro byte first
  cases port? with
  | some digits => exact .inl (Option.some.inj first).symm
  | none =>
    rcases based with rfl | ⟨rest,rfl,_⟩
    · cases first
    · exact .inr (Option.some.inj first).symm

theorem suffix_unique (digits : Port port?) (based : Path path) (digits' : Port port') (based' : Path path')
    (same : suffix port? path = suffix port' path') : port? = port' ∧ path = path' := by
  have head {path : Text} (based : Path path) : ∀ byte ∈ path.head?, byte = slash := by
    intro byte first
    rcases based with rfl | ⟨rest,rfl,_⟩
    · cases first
    · exact (Option.some.inj first).symm
  have apart {digits path : Text} (based : Path path) : colon :: digits ≠ path := by
    rintro rfl
    have impossible := head based colon rfl
    revert impossible
    decide
  have numberless {path : Text} (based : Path path) : ∀ byte ∈ path.head?, isDigit byte = false := by
    intro byte first
    rw [head based byte first]
    rfl
  cases port? with
  | none =>
    cases port' with
    | none => exact ⟨rfl,same⟩
    | some found => exact absurd same.symm (apart based)
  | some found =>
    cases port' with
    | none => exact absurd same (apart based')
    | some other =>
      obtain ⟨rfl,rfl⟩ := span_unique (digits found rfl).2 (digits' other rfl).2 (numberless based)
        (numberless based') (List.cons.inj same).2
      exact ⟨rfl,rfl⟩

theorem scheme_unique (secure : Scheme scheme) (secure' : Scheme scheme')
    (same : scheme ++ bytes "://" ++ rest = scheme' ++ bytes "://" ++ rest') :
    scheme = scheme' ∧ rest = rest' := by
  have letters : ∀ {scheme : Text}, Scheme scheme → ∀ byte ∈ scheme, (byte != colon) = true := by
    rintro _ (rfl | rfl)
    · exact List.all_eq_true.mp (by decide)
    · exact List.all_eq_true.mp (by decide)
  have separator : bytes "://" = [colon,slash,slash] := by decide
  rw [List.append_assoc,List.append_assoc,separator] at same
  obtain ⟨rfl,tails⟩ := span_unique (letters secure) (letters secure') (by simp) (by simp) same
  exact ⟨rfl,List.append_cancel_left tails⟩

theorem host_unique (named : Host bracketed host) (named' : Host bracketed host')
    (ends : ∀ byte ∈ rest.head?, byte = colon ∨ byte = slash)
    (stops : ∀ byte ∈ rest'.head?, byte = colon ∨ byte = slash) (same : host ++ rest = host' ++ rest') :
    host = host' ∧ rest = rest' := by
  cases named with
  | address _ free =>
    cases named' with
    | address _ free' =>
      simp only [List.cons_append,List.append_assoc,List.cons.injEq,true_and] at same
      have letters : ∀ {nested : Text}, closing ∉ nested → ∀ byte ∈ nested, (byte != closing) = true := by
        intro nested free byte present
        simp only [bne_iff_ne,ne_eq]
        exact fun same => free (same ▸ present)
      obtain ⟨rfl,behind⟩ := span_unique (letters free) (letters free') (by simp) (by simp) same
      exact ⟨rfl,(List.cons.inj behind).2⟩
  | name _ free =>
    cases named' with
    | name _ free' =>
      have letters : ∀ {host : Text}, slash ∉ host ∧ colon ∉ host →
          ∀ byte ∈ host, (byte != slash && byte != colon) = true := by
        intro host free byte present
        simp only [Bool.and_eq_true,bne_iff_ne,ne_eq]
        exact ⟨fun same => free.1 (same ▸ present),fun same => free.2 (same ▸ present)⟩
      have limits : ∀ {rest : Text}, (∀ byte ∈ rest.head?, byte = colon ∨ byte = slash) →
          ∀ byte ∈ rest.head?, (byte != slash && byte != colon) = false := by
        intro rest ends byte first
        rcases ends byte first with rfl | rfl <;> rfl
      exact span_unique (letters free) (letters free') (limits ends) (limits stops) same

theorem reading_unique (one : Reading bracketed url scheme host port? path)
    (two : Reading bracketed url scheme' host' port' path') :
    scheme = scheme' ∧ host = host' ∧ port? = port' ∧ path = path' := by
  obtain ⟨rfl,authority⟩ := scheme_unique one.secure two.secure (one.spelled.symm.trans two.spelled)
  obtain ⟨rfl,behind⟩ := host_unique one.named two.named (suffix_head one.based) (suffix_head two.based) authority
  obtain ⟨rfl,rfl⟩ := suffix_unique one.digits one.based two.digits two.based behind
  exact ⟨rfl,rfl,rfl,rfl⟩

theorem scheme_settled : ∀ one ∈ results schemePattern url, ∀ two ∈ results schemePattern url, one = two := by
  rintro ⟨_,rest⟩ found ⟨_,rest'⟩ other
  obtain ⟨_,rfl,matched⟩ := mem_results.mp found
  obtain ⟨scheme,secure,rfl,rfl⟩ := matches_scheme.mp matched
  obtain ⟨_,same,matched⟩ := mem_results.mp other
  obtain ⟨scheme',secure',rfl,rfl⟩ := matches_scheme.mp matched
  obtain ⟨rfl,rfl⟩ := scheme_unique secure secure' same
  rfl

def parsed (scheme host : Text) (port? : Option Text) (path : Text) : ParsedUrl :=
  ⟨scheme,host,port?.getD (defaultPort scheme),path⟩

theorem parseUrl_captured (digits : Port port?)
    (found : fullMatch urlPattern url = some (captured scheme host port? path)) :
    parseUrl url = some (parsed scheme host port? path) := by
  rw [parseUrl,found]
  cases port? with
  | none => cases path <;> rfl
  | some number =>
    obtain ⟨digit,rest,rfl⟩ := List.exists_cons_of_ne_nil (digits number rfl).1
    cases path <;> rfl

theorem host_either (url : Text) : results hostPattern url =
    results (.group .host bracketPattern) url ++ results (.group .host namePattern) url := by
  simp only [hostPattern,results,List.map_append]

theorem matches_urlPattern : Matches urlPattern url captures ↔
    ∃ bracketed, Matches (reading bracketed) url captures := by
  have choice (text : Text) (captures : Captures UInt8 UrlGroup) : Matches hostPattern text captures ↔
      ∃ bracketed : Bool, Matches (.group .host (if bracketed then bracketPattern else namePattern)) text captures := by
    simp only [hostPattern,matches_group,matches_alt,Bool.exists_bool,Bool.false_eq_true,if_false,if_true]
    constructor
    · rintro ⟨inside,one | other,rfl⟩
      · exact .inr ⟨inside,one,rfl⟩
      · exact .inl ⟨inside,other,rfl⟩
    · rintro (⟨inside,other,rfl⟩ | ⟨inside,one,rfl⟩)
      · exact ⟨inside,.inr other,rfl⟩
      · exact ⟨inside,.inl one,rfl⟩
  simp only [urlPattern,reading,matches_seq schemePattern,matches_seq _ tailPattern,choice]
  constructor
  · rintro ⟨_,_,_,_,scheme,⟨_,_,_,_,⟨bracketed,host⟩,tail,rfl,rfl⟩,rfl,rfl⟩
    exact ⟨bracketed,_,_,_,_,scheme,⟨_,_,_,_,host,tail,rfl,rfl⟩,rfl,rfl⟩
  · rintro ⟨bracketed,_,_,_,_,scheme,⟨_,_,_,_,host,tail,rfl,rfl⟩,rfl,rfl⟩
    exact ⟨_,_,_,_,scheme,⟨_,_,_,_,⟨bracketed,host⟩,tail,rfl,rfl⟩,rfl,rfl⟩

-- A URL is understood exactly if it can be read, and where both readings of its
-- host fit, it is read with the address in brackets.
theorem parseUrl_iff (url : Text) (found : ParsedUrl) : parseUrl url = some found ↔
    ∃ bracketed port?, Reading bracketed url found.scheme found.host port? found.basePath ∧
      found.port = port?.getD (defaultPort found.scheme) ∧
      (bracketed = false → ∀ scheme host port? path, ¬ Reading true url scheme host port? path) := by
  have reads {bracketed : Bool} {captures : Captures UInt8 UrlGroup} (first : fullMatch urlPattern url = some captures)
      (matched : Matches (reading bracketed) url captures) : ∃ scheme host port? path,
      Reading bracketed url scheme host port? path ∧ parseUrl url = some (parsed scheme host port? path) := by
    obtain ⟨scheme,host,port?,path,one,rfl⟩ := (matches_reading bracketed).mp matched
    exact ⟨scheme,host,port?,path,one,parseUrl_captured one.digits first⟩
  have prefers {scheme host path : Text} {port? : Option Text} (fits : Reading true url scheme host port? path) :
      parseUrl url = some (parsed scheme host port? path) := by
    obtain ⟨captures,first,matched⟩ := fullMatch_prefers host_either (fun one found => scheme_settled one found)
      ((matches_reading true).mpr ⟨scheme,host,port?,path,fits,rfl⟩)
    obtain ⟨_,_,_,_,one,parses⟩ := @reads true captures first matched
    obtain ⟨rfl,rfl,rfl,rfl⟩ := reading_unique fits one
    exact parses
  constructor
  · intro parses
    obtain ⟨captures,first,_⟩ := Option.map_eq_some_iff.mp parses
    obtain ⟨bracketed,matched⟩ := matches_urlPattern.mp (fullMatch_sound first)
    obtain ⟨scheme,host,port?,path,one,same⟩ := reads first matched
    by_cases address : ∃ scheme host port? path, Reading true url scheme host port? path
    · obtain ⟨scheme,host,port?,path,one⟩ := address
      cases (prefers one).symm.trans parses
      exact ⟨true,port?,one,rfl,nofun⟩
    · cases same.symm.trans parses
      exact ⟨bracketed,port?,one,rfl,fun _ scheme host port? path other => address ⟨scheme,host,port?,path,other⟩⟩
  · rintro ⟨bracketed,port?,one,port,alone⟩
    have same : parsed found.scheme found.host port? found.basePath = found := by
      rw [parsed,← port]
    cases bracketed with
    | true => exact (prefers one).trans (congrArg some same)
    | false =>
      obtain ⟨captures,first⟩ := Option.isSome_iff_exists.mp (fullMatch_isSome.mpr
        ⟨_,matches_urlPattern.mpr ⟨false,(matches_reading false).mpr ⟨_,_,_,_,one,rfl⟩⟩⟩)
      obtain ⟨bracketed,matched⟩ := matches_urlPattern.mp (fullMatch_sound first)
      obtain ⟨scheme,host,port',path,other,parses⟩ := reads first matched
      cases bracketed with
      | true => exact absurd other (alone rfl scheme host port' path)
      | false =>
        obtain ⟨rfl,rfl,rfl,rfl⟩ := reading_unique one other
        exact parses.trans (congrArg some same)

-- Both readings fit: the port is part of the address.
example : parseUrl (bytes "http://[:80/x]") = some ⟨bytes "http",bytes "[:80/x]",bytes "80",[]⟩ := by
  decide +kernel

structure ApiRequest where
  useTls : Bool
  resolverHost : Text
  port : Text
  target : Text
  hostHeader : Text
  authorization : Text
  apiKey : Text
  deriving DecidableEq, Repr

def resolverHost (host : Text) : Text :=
  if host.head? = some opening ∧ host.getLast? = some closing then
    (host.drop 1).take (host.length - 2)
  else host

def requestTo (url : ParsedUrl) (secretKey clientKey : Text) : ApiRequest where
  useTls := decide (url.scheme = https)
  resolverHost := resolverHost url.host
  port := url.port
  target := url.basePath ++ bytes "/client"
  hostHeader := url.host ++ bytes ":" ++ url.port
  authorization := bytes "Bearer " ++ secretKey
  apiKey := clientKey

def request? (apiBaseUrl secretKey clientKey : Text) : Option ApiRequest :=
  (parseUrl apiBaseUrl).map fun url => requestTo url secretKey clientKey

theorem resolverHost_address : resolverHost (opening :: nested ++ [closing]) = nested := by
  rw [resolverHost,if_pos ⟨rfl,by rw [List.getLast?_append]; rfl⟩]
  simp

-- Every URL that can be read is asked for what it names, and no other URL leads
-- to a request: the brackets of an address stay in the Host header and are taken
-- off for the resolver, and the default port is the one of the scheme.
theorem request_sent_iff (apiBaseUrl secretKey clientKey : Text) (sent : ApiRequest) :
    request? apiBaseUrl secretKey clientKey = some sent ↔
      ∃ bracketed scheme host port? path, Reading bracketed apiBaseUrl scheme host port? path ∧
        (bracketed = false → ∀ scheme host port? path, ¬ Reading true apiBaseUrl scheme host port? path) ∧
        sent = requestTo (parsed scheme host port? path) secretKey clientKey ∧
        (bracketed = true → host = opening :: sent.resolverHost ++ [closing]) := by
  constructor
  · intro asked
    obtain ⟨found,parses,rfl⟩ := Option.map_eq_some_iff.mp asked
    obtain ⟨bracketed,port?,one,port,alone⟩ := (parseUrl_iff apiBaseUrl found).mp parses
    refine ⟨bracketed,found.scheme,found.host,port?,found.basePath,one,alone,?_,?_⟩
    · rw [parsed,← port]
    · rintro rfl
      have named := one.named
      revert named
      simp only [requestTo]
      generalize found.host = host
      intro named
      cases named with
      | address => rw [resolverHost_address]
  · rintro ⟨bracketed,scheme,host,port?,path,one,alone,rfl,_⟩
    have parses : parseUrl apiBaseUrl = some (parsed scheme host port? path) :=
      (parseUrl_iff apiBaseUrl _).mpr ⟨bracketed,port?,one,rfl,alone⟩
    rw [request?,parses]
    rfl

-- The parts of a URL. A name that begins with a bracket may be mistaken for an
-- address.
structure UrlParts where
  scheme : Text
  bracketed : Bool
  host : Text
  port? : Option Text
  path : Text
  secure : Scheme scheme
  named : Host bracketed host
  plain : bracketed = false → host.head? ≠ some opening
  digits : Port port?
  based : Path path

def UrlParts.spell (parts : UrlParts) : Text :=
  parts.scheme ++ bytes "://" ++ (parts.host ++ suffix parts.port? parts.path)

theorem url_round_trip (parts : UrlParts) : parseUrl parts.spell =
    some ⟨parts.scheme,parts.host,parts.port?.getD (defaultPort parts.scheme),parts.path⟩ := by
  refine (parseUrl_iff _ _).mpr
    ⟨parts.bracketed,parts.port?,⟨parts.secure,parts.named,parts.digits,parts.based,rfl⟩,rfl,?_⟩
  intro unbracketed scheme host port? path other
  have first := parts.plain unbracketed
  obtain ⟨_,authority⟩ := scheme_unique parts.secure other.secure other.spelled
  have named := parts.named
  have bracket := other.named
  rw [unbracketed] at named
  cases bracket with
  | address =>
    cases named with
    | name filled =>
      rw [List.head?_eq_some_head filled] at first
      have heads := congrArg List.head? authority
      rw [List.head?_append_of_ne_nil _ filled,List.head?_eq_some_head filled] at heads
      exact first heads

def loopback : UrlParts where
  scheme := https
  bracketed := true
  host := opening :: bytes "::1" ++ [closing]
  port? := some (bytes "8443")
  path := bytes "/auth"
  secure := .inr rfl
  named := .address (by decide) (by decide)
  plain := nofun
  digits := by
    rintro _ ⟨⟩
    exact ⟨by decide,List.all_eq_true.mp (by decide)⟩
  based := .inr ⟨bytes "auth",rfl,List.all_eq_true.mp (by decide)⟩

theorem url_round_trip_loopback : parseUrl (bytes "https://[::1]:8443/auth") =
    some ⟨https,bytes "[::1]",bytes "8443",bytes "/auth"⟩ := url_round_trip loopback

end JotaTranscriber.AuthUrl
