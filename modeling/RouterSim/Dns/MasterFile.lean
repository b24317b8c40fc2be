import RouterSim.Dns.Zone
import RouterSim.Ip.AddressText

/-! Master files: the lexer, the records an import reads, and the text an export writes.
Escapes are decoded only once the bounds of the tokens are known. -/
namespace RouterSim.Dns.MasterFile

open Text (ascii)

inductive MasterFileErrorCode
  | none | malformedToken | unterminatedQuote | unmatchedParenthesis | missingOrigin
  | missingOwner | missingTtl | unsupportedDirective | invalidOwner | invalidType | invalidTtl
  | invalidRdata | includeUnavailable | includeCycle

structure MasterFileError where
  code : MasterFileErrorCode := .none
  source : List (BitVec 8) := []
  line : Nat := 0
  token : Nat := 0

structure MasterFileResult where
  records : List ZoneRecord := []
  error : MasterFileError := {}

structure MasterFileInclude where
  canonicalName : List (BitVec 8)
  contents : List (BitVec 8)

/-- The referring source and the requested one. A resolver that throws has no answer. -/
abbrev MasterFileIncludeResolver := List (BitVec 8) → List (BitVec 8) → Option MasterFileInclude

structure Token where
  text : List (BitVec 8) := []
  quoted : Bool := false

structure Entry where
  tokens : List Token := []
  line : Nat := 1
  ownerOmitted : Bool := false

section Tokenize

def newline : BitVec 8 := 0x0a#8
def blank : BitVec 8 := 0x20#8
def quotationMark : BitVec 8 := 0x22#8
def numberSign : BitVec 8 := 0x23#8
def dollar : BitVec 8 := 0x24#8
def openParenthesis : BitVec 8 := 0x28#8
def closeParenthesis : BitVec 8 := 0x29#8
def dot : BitVec 8 := 0x2e#8
def semicolon : BitVec 8 := 0x3b#8
def backslash : BitVec 8 := 0x5c#8

/-- What the lexer carries from character to character. -/
structure Lexer where
  entries : List Entry := []
  entry : Entry := {}
  token : Token := {}
  line : Nat := 1
  parentheses : Nat := 0
  quote : Bool := false
  comment : Bool := false
  escape : Bool := false
  tokenActive : Bool := false
  entryStarted : Bool := false

namespace Lexer

def push (lexer : Lexer) (characters : List (BitVec 8)) : Lexer :=
  { lexer with
    token := { lexer.token with text := lexer.token.text ++ characters }, tokenActive := true }

def finishToken (lexer : Lexer) : Lexer :=
  if lexer.tokenActive then
    { lexer with
      entry := { lexer.entry with tokens := lexer.entry.tokens ++ [lexer.token] }, token := {},
      tokenActive := false }
  else lexer

def finishEntry (lexer : Lexer) : Lexer :=
  let finished := lexer.finishToken
  { finished with
    entries :=
      if finished.entry.tokens.isEmpty then finished.entries
      else finished.entries ++ [finished.entry]
    entry := { line := finished.line + 1 }, entryStarted := false }

def fail (lexer : Lexer) (code : MasterFileErrorCode) : MasterFileError where
  code := code
  line := lexer.line
  token := lexer.entry.tokens.length

def nextLine (lexer : Lexer) : Lexer := { lexer with line := lexer.line + 1 }

/-- A line ends an entry unless a parenthesis is open. -/
def step (lexer : Lexer) (character : BitVec 8) : Except MasterFileError Lexer :=
  if lexer.comment then
    if character = newline then
      let lexer := { lexer with comment := false }
      .ok (if lexer.parentheses = 0 then lexer.finishEntry else lexer).nextLine
    else .ok lexer
  else if lexer.escape then .ok { lexer.push [backslash, character] with escape := false }
  else if character = backslash then .ok { lexer with escape := true, tokenActive := true }
  else if lexer.quote then
    if character = quotationMark then
      .ok
        { lexer with
          quote := false, token := { lexer.token with quoted := true }, tokenActive := true }
    else if character = newline then .ok (lexer.push [character]).nextLine
    else .ok (lexer.push [character])
  else if character = quotationMark then
    .ok
      { lexer with
        quote := true, token := { lexer.token with quoted := true }, tokenActive := true,
        entryStarted := true }
  else if character = semicolon then .ok { lexer.finishToken with comment := true }
  else if character = openParenthesis then
    let finished := lexer.finishToken
    .ok { finished with parentheses := finished.parentheses + 1, entryStarted := true }
  else if character = closeParenthesis then
    let finished := lexer.finishToken
    if finished.parentheses = 0 then .error (finished.fail .unmatchedParenthesis)
    else .ok { finished with parentheses := finished.parentheses - 1 }
  else if character = newline then
    .ok (if lexer.parentheses = 0 then lexer.finishEntry else lexer.finishToken).nextLine
  else if Text.isSpace character then
    let omitted := !lexer.entryStarted && lexer.entry.tokens.isEmpty && !lexer.tokenActive
    .ok (finishToken
      { lexer with
        entry := { lexer.entry with ownerOmitted := lexer.entry.ownerOmitted || omitted } })
  else .ok { lexer.push [character] with entryStarted := true }

def scan (lexer : Lexer) (text : List (BitVec 8)) : Except MasterFileError Lexer :=
  text.foldlM step lexer

end Lexer

def tokenize (text : List (BitVec 8)) : Except MasterFileError (List Entry) :=
  match Lexer.scan {} text with
  | .error failure => .error failure
  | .ok lexer =>
    if lexer.escape || lexer.quote then
      .error (lexer.fail (if lexer.quote then .unterminatedQuote else .malformedToken))
    else if lexer.parentheses ≠ 0 then .error (lexer.fail .unmatchedParenthesis)
    else .ok lexer.finishEntry.entries

end Tokenize

section Names

/-- A backslash takes three digits for an octet, or any other character for itself. -/
def decodeEscapes : List (BitVec 8) → Option (List (BitVec 8))
  | [] => some []
  | character :: rest =>
    if character ≠ backslash then (decodeEscapes rest).map (character :: ·)
    else
      match rest with
      | [] => none
      | escaped :: rest =>
        if Text.isDigit escaped then
          match rest with
          | second :: third :: rest =>
            match Text.number 10 255 [escaped, second, third] with
            | none => none
            | some value => (decodeEscapes rest).map (BitVec.ofNat 8 value :: ·)
          | _ => none
        else (decodeEscapes rest).map (escaped :: ·)

/-- The texts of the labels: they end at a dot that is not escaped. -/
def labelTexts (escaped : Bool) (current : List (BitVec 8)) :
    List (BitVec 8) → List (List (BitVec 8))
  | [] => if current = [] then [] else [current]
  | character :: rest =>
    if !escaped && character == dot then current :: labelTexts false [] rest
    else labelTexts (!escaped && character == backslash) (current ++ [character]) rest

def appendLabel (labels : List (List (BitVec 8))) (text : List (BitVec 8)) :
    Option (List (List (BitVec 8))) :=
  match decodeEscapes text with
  | none => none
  | some label =>
    if label = [] ∨ maximumLabelOctets < label.length ∨
        maximumNameOctets ≤ (encodeLabels labels).length - 1 + 1 + label.length then none
    else some (labels ++ [label])

def masterName (text : List (BitVec 8)) (origin : Name) : Option Name :=
  if text = ascii "@" then some origin
  else if text = [] then none
  else
    let absolute := text.getLast? == some dot
    let body := if absolute then text.dropLast else text
    match (labelTexts false [] body).foldlM appendLabel [] with
    | none => none
    | some labels => Name.ofLabels (if absolute then labels else labels ++ origin.labels)

end Names

section Rdata

def typeNull : BitVec 16 := 10#16

def knownTypes : List (String × BitVec 16) :=
  [("A", typeA), ("NS", typeNs), ("MD", typeMd), ("MF", typeMf), ("CNAME", typeCname),
    ("SOA", typeSoa), ("MB", typeMb), ("MG", typeMg), ("MR", typeMr), ("NULL", typeNull),
    ("WKS", typeWks), ("PTR", typePtr), ("HINFO", typeHinfo), ("MINFO", typeMinfo),
    ("MX", typeMx), ("TXT", typeTxt), ("AAAA", typeAaaa), ("SRV", typeSrv),
    ("DNAME", typeDname)]

/-- A keyword of a table, in either case. -/
def keyword {value : Type} (table : List (String × value)) (text : List (BitVec 8)) :
    Option value :=
  (table.find? fun row => ascii row.1 == Text.upper text).map (·.2)

def recordType (text : List (BitVec 8)) : Option (BitVec 16) :=
  match keyword knownTypes text with
  | some type => some type
  | none =>
    let value := Text.upper text
    if (ascii "TYPE").isPrefixOf value then
      (Text.number 10 0xffff (value.drop 4)).map (BitVec.ofNat 16)
    else none

def protocols : List (String × Nat) :=
  [("ICMP", 1), ("IGMP", 2), ("GGP", 3), ("ST", 5), ("TCP", 6), ("UCL", 7), ("EGP", 8),
    ("IGP", 9), ("BBN-RCC-MON", 10), ("NVP-II", 11), ("PUP", 12), ("ARGUS", 13), ("EMCON", 14),
    ("XNET", 15), ("CHAOS", 16), ("UDP", 17), ("MUX", 18), ("DCN-MEAS", 19), ("HMP", 20),
    ("PRM", 21), ("XNS-IDP", 22), ("TRUNK-1", 23), ("TRUNK-2", 24), ("LEAF-1", 25),
    ("LEAF-2", 26), ("RDP", 27), ("IRTP", 28), ("ISO-TP4", 29), ("NETBLT", 30), ("MFE-NSP", 31),
    ("MERIT-INP", 32), ("SEP", 33), ("CFTP", 62), ("SAT-EXPAK", 64), ("MIT-SUBNET", 65),
    ("RVD", 66), ("IPPC", 67), ("SAT-MON", 69), ("IPCV", 71), ("BR-SAT-MON", 76),
    ("WB-MON", 78), ("WB-EXPAK", 79)]

def protocolNumber (text : List (BitVec 8)) : Option (BitVec 8) :=
  match Text.number 10 255 text with
  | some value => some (BitVec.ofNat 8 value)
  | none => (keyword protocols text).map (BitVec.ofNat 8)

def services : List (String × Nat) :=
  [("RJE", 5), ("ECHO", 7), ("DISCARD", 9), ("USERS", 11), ("DAYTIME", 13), ("QUOTE", 17),
    ("CHARGEN", 19), ("FTP-DATA", 20), ("FTP", 21), ("TELNET", 23), ("SMTP", 25),
    ("NSW-FE", 27), ("MSG-ICP", 29), ("MSG-AUTH", 31), ("DSP", 33), ("TIME", 37), ("RLP", 39),
    ("GRAPHICS", 41), ("NAMESERVER", 42), ("NICNAME", 43), ("MPM-FLAGS", 44), ("MPM", 45),
    ("MPM-SND", 46), ("NI-FTP", 47), ("LOGIN", 49), ("LA-MAINT", 51), ("DOMAIN", 53),
    ("ISI-GL", 55), ("NI-MAIL", 61), ("VIA-FTP", 63), ("TACACS-DS", 65), ("BOOTPS", 67),
    ("BOOTPC", 68), ("TFTP", 69), ("NETRJS-1", 71), ("NETRJS-2", 72), ("NETRJS-3", 73),
    ("NETRJS-4", 74), ("FINGER", 79), ("HOSTS2-NS", 81), ("MIT-ML-DEV", 83), ("SU-MIT-TG", 89),
    ("MIT-DOV", 91), ("DCP", 93), ("SUPDUP", 95), ("SWIFT-RVF", 97), ("TACNEWS", 98),
    ("METAGRAM", 99), ("HOSTNAME", 101), ("ISO-TSAP", 102), ("X400", 103), ("X400-SND", 104),
    ("CSNET-NS", 105), ("RTELNET", 107), ("POP-2", 109), ("SUNRPC", 111), ("AUTH", 113),
    ("SFTP", 115), ("UUCP-PATH", 117), ("NNTP", 119), ("ERPC", 121), ("NTP", 123),
    ("LOCUS-MAP", 125), ("LOCUS-CON", 127), ("PWDGEN", 129), ("CISCO-FNA", 130),
    ("CISCO-TNA", 131), ("CISCO-SYS", 132), ("STATSRV", 133), ("INGRES-NET", 134),
    ("LOC-SRV", 135), ("PROFILE", 136), ("NETBIOS-NS", 137), ("NETBIOS-DGM", 138),
    ("NETBIOS-SSN", 139), ("EMFIS-DATA", 140), ("EMFIS-CNTL", 141), ("BL-IDM", 142),
    ("SUR-MEAS", 243), ("LINK", 245)]

def servicePort (text : List (BitVec 8)) : Option Nat :=
  match Text.number 10 0xffff text with
  | some value => some value
  | none => keyword services text

def characterString (token : Token) : Option (List (BitVec 8)) :=
  match decodeEscapes token.text with
  | none => none
  | some bytes => if 255 < bytes.length then none else some (BitVec.ofNat 8 bytes.length :: bytes)

def nameOctets (origin : Name) (token : Token) : Option (List (BitVec 8)) :=
  (masterName token.text origin).map Name.wire

def decimal16 (token : Token) : Option (List (BitVec 8)) :=
  (Text.number 10 0xffff token.text).map fun value => Octets.octets16 (BitVec.ofNat 16 value)

def decimal32 (token : Token) : Option (List (BitVec 8)) :=
  (Text.number 10 0xffffffff token.text).map fun value => Octets.octets32 (BitVec.ofNat 32 value)

/-- Each token by the reader in its place, as many tokens as readers. -/
def fields : List (Token → Option (List (BitVec 8))) → List Token → Option (List (BitVec 8))
  | [], [] => some []
  | reader :: readers, token :: tokens =>
    match reader token, fields readers tokens with
    | some octets, some rest => some (octets ++ rest)
    | _, _ => none
  | _, _ => none

/-- The service bits, the lowest port first in each octet. -/
def servicesBitmap (ports : List Nat) : List (BitVec 8) :=
  if ports = [] then []
  else
    (List.range (ports.foldl max 0 / 8 + 1)).map fun octet =>
      ports.foldl
        (fun bits port => if port / 8 = octet then bits ||| (0x80#8 >>> (port % 8)) else bits) 0#8

def genericMark : List (BitVec 8) := [backslash, numberSign]

def genericRdata (tokens : List Token) : Option (List (BitVec 8)) :=
  match tokens with
  | mark :: length :: digits =>
    if mark.text ≠ genericMark then none
    else
      match Text.number 10 0xffff length.text with
      | none => none
      | some expected =>
        let hex := digits.flatMap Token.text
        if hex.length ≠ expected * 2 then none else Text.readHex hex
  | _ => none

def wksRdata (tokens : List Token) : Option (List (BitVec 8)) :=
  match tokens with
  | address :: protocol :: ports =>
    match Ip.AddressText.dottedQuad address.text, protocolNumber protocol.text,
      ports.mapM fun port => servicePort port.text with
    | some octets, some number, some ports => some (octets ++ number :: servicesBitmap ports)
    | _, _, _ => none
  | _ => none

/-- The record data of the tokens. The null type has no form of its own. -/
def typedRdata (type : BitVec 16) (tokens : List Token) (origin : Name) :
    Option (List (BitVec 8)) :=
  if tokens.head?.map Token.text = some genericMark then genericRdata tokens
  else if type = typeA then fields [fun token => Ip.AddressText.dottedQuad token.text] tokens
  else if type = typeAaaa then fields [fun token => Ip.AddressText.parseIpv6 token.text] tokens
  else if holdsOneName type then fields [nameOctets origin] tokens
  else if type = typeMx then fields [decimal16, nameOctets origin] tokens
  else if type = typeSrv then fields [decimal16, decimal16, decimal16, nameOctets origin] tokens
  else if type = typeSoa then
    fields [nameOctets origin, nameOctets origin, decimal32, decimal32, decimal32, decimal32,
      decimal32] tokens
  else if type = typeTxt then
    if tokens = [] then none else (tokens.mapM characterString).map List.flatten
  else if type = typeHinfo then fields [characterString, characterString] tokens
  else if type = typeMinfo then fields [nameOctets origin, nameOctets origin] tokens
  else if type = typeWks then wksRdata tokens
  else none

end Rdata

section Import

/-- One source that is being read: the entries still to come, and the origin there. -/
structure ImportFrame where
  entries : List Entry
  origin : Option Name
  identity : List (BitVec 8)

/-- The sources that are open, the innermost first, and what they share. -/
structure Import where
  frame : ImportFrame
  outer : List ImportFrame
  defaultTtl : Option (BitVec 32)
  lastTtl : Option (BitVec 32) := none
  lastOwner : Option Name := none
  records : List ZoneRecord := []

def Entry.text (entry : Entry) (i : Nat) : List (BitVec 8) := (entry.tokens.getD i {}).text

namespace Import

variable (resolver : Option MasterFileIncludeResolver) (state : Import) (entry : Entry)

def fail {α : Type} (code : MasterFileErrorCode) (token : Nat := 0) : Except MasterFileError α :=
  .error
    { code := code, source := state.frame.identity, line := entry.line, token := token }

/-- The origin of an included source: the third token, or else the including source's own. -/
def childOrigin : Except MasterFileError (Option Name) :=
  if entry.tokens.length ≠ 3 then .ok state.frame.origin
  else if (entry.text 2).getLast? ≠ some dot ∧ state.frame.origin = none then
    fail state entry .missingOrigin 2
  else
    match masterName (entry.text 2) (state.frame.origin.getD Name.root) with
    | none => fail state entry .invalidOwner 2
    | some name => .ok (some name)

def includeSource : Except MasterFileError Import :=
  if entry.tokens.length < 2 ∨ 3 < entry.tokens.length then fail state entry .malformedToken
  else
    match resolver with
    | none => fail state entry .includeUnavailable 1
    | some resolve =>
      match decodeEscapes (entry.text 1) with
      | none => fail state entry .malformedToken 1
      | some requested =>
        if requested = [] then fail state entry .malformedToken 1
        else
          match resolve state.frame.identity requested with
          | none => fail state entry .includeUnavailable 1
          | some included =>
            if included.canonicalName = [] then fail state entry .includeUnavailable 1
            else if (state.frame :: state.outer).any (·.identity == included.canonicalName) then
              fail state entry .includeCycle 1
            else
              match childOrigin state entry with
              | .error failure => .error failure
              | .ok origin =>
                match tokenize included.contents with
                | .error failure => .error { failure with source := included.canonicalName }
                | .ok entries =>
                  .ok
                    { state with
                      frame :=
                        { entries := entries, origin := origin, identity := included.canonicalName }
                      outer := state.frame :: state.outer }

def directive : Except MasterFileError Import :=
  let directive := Text.upper (entry.text 0)
  if directive = ascii "$INCLUDE" then includeSource resolver state entry
  else if directive = ascii "$ORIGIN" then
    if entry.tokens.length ≠ 2 then fail state entry .malformedToken
    else
      match masterName (entry.text 1) (state.frame.origin.getD Name.root) with
      | none => fail state entry .invalidOwner 1
      | some name => .ok { state with frame := { state.frame with origin := some name } }
  else if directive = ascii "$TTL" then
    if entry.tokens.length ≠ 2 then fail state entry .invalidTtl
    else
      match Text.number 10 0x7fffffff (entry.text 1) with
      | none => fail state entry .invalidTtl 1
      | some ttl => .ok { state with defaultTtl := some (BitVec.ofNat 32 ttl) }
  else fail state entry .unsupportedDirective

/-- The tokens before the record data: class, TTL, and last the type. They come back with the
tokens after them and the index these start at. -/
def readFields (index : Nat) (ttl : Option (BitVec 32)) :
    List Token → Except MasterFileError (Option (BitVec 32) × BitVec 16 × List Token × Nat)
  | [] => fail state entry .invalidType
  | token :: rest =>
    let value := Text.upper token.text
    if value = ascii "IN" ∨ value = ascii "CLASS1" then readFields (index + 1) ttl rest
    else
      match if ttl.isNone then Text.number 10 0xffffffff value else none with
      | some parsed =>
        if 0x7fffffff < parsed then fail state entry .invalidTtl index
        else readFields (index + 1) (some (BitVec.ofNat 32 parsed)) rest
      | none =>
        match recordType value with
        | none => fail state entry .invalidType index
        | some type => .ok (ttl, type, rest, index + 1)

/-- The owner, and the tokens after it. -/
def readOwner (origin : Name) : Except MasterFileError (Name × List Token × Nat) :=
  if entry.ownerOmitted then
    match state.lastOwner with
    | none => fail state entry .missingOwner
    | some owner => .ok (owner, entry.tokens, 0)
  else
    match masterName (entry.text 0) origin with
    | none => fail state entry .invalidOwner
    | some owner => .ok (owner, entry.tokens.drop 1, 1)

/-- A TTL of its own comes first, then the default, then the last one given. -/
def record : Except MasterFileError Import :=
  match state.frame.origin with
  | none => fail state entry .missingOrigin
  | some origin =>
    match readOwner state entry origin with
    | .error failure => .error failure
    | .ok (owner, tokens, index) =>
      match readFields state entry index none tokens with
      | .error failure => .error failure
      | .ok (ttl, type, tokens, index) =>
        match ttl.or (state.defaultTtl.or state.lastTtl) with
        | none => fail state entry .missingTtl
        | some effectiveTtl =>
          match typedRdata type tokens origin with
          | none => fail state entry .invalidRdata index
          | some rdata =>
            .ok
              { state with
                lastTtl := ttl.or state.lastTtl, lastOwner := some owner,
                records := state.records ++
                  [{ owner := owner, type := type, ttl := effectiveTtl, rdata := rdata }] }

def importEntry : Except MasterFileError Import :=
  if (entry.text 0).head? = some dollar then directive resolver state entry
  else record state entry

/-- The open sources to their end. Included sources may have no end, so the steps are counted:
`none` is an import that is still under way. -/
def run : Nat → Import → Option MasterFileResult
  | 0, _ => none
  | steps + 1, state =>
    match state.frame.entries with
    | [] =>
      match state.outer with
      | [] => some { records := state.records }
      | frame :: outer => run steps { state with frame := frame, outer := outer }
    | entry :: rest =>
      let state := { state with frame := { state.frame with entries := rest } }
      match importEntry resolver state entry with
      | .error failure => some { error := failure }
      | .ok state => run steps state

end Import

def importMasterFile (steps : Nat) (text : List (BitVec 8)) (initialOrigin : Option Name)
    (initialTtl : Option (BitVec 32)) (resolver : Option MasterFileIncludeResolver)
    (sourceIdentity : List (BitVec 8)) : Option MasterFileResult :=
  match tokenize text with
  | .error failure => some { error := { failure with source := sourceIdentity } }
  | .ok entries =>
    Import.run resolver steps
      { frame :=
          { entries := entries, origin := initialOrigin, identity := sourceIdentity }
        outer := [], defaultTtl := initialTtl }

end Import

section Export

/-- Letters, digits, hyphen and underscore stand for themselves. -/
def octetText (octet : BitVec 8) : List (BitVec 8) :=
  if Text.isAlnum octet || octet == 0x2d#8 || octet == 0x5f#8 then [octet]
  else
    [backslash, Text.digit (octet.toNat / 100), Text.digit (octet.toNat / 10 % 10),
      Text.digit (octet.toNat % 10)]

def labelText (label : List (BitVec 8)) : List (BitVec 8) := label.flatMap octetText

/-- A dot between the labels and one after the last. The root is a dot alone. -/
def masterNameText (name : Name) : List (BitVec 8) :=
  if name.labels = [] then [dot] else name.labels.flatMap fun label => labelText label ++ [dot]

def recordText (record : ZoneRecord) : List (BitVec 8) :=
  masterNameText record.owner ++ [blank] ++ Text.decimalText record.ttl.toNat ++
    ascii " IN TYPE" ++ Text.decimalText record.type.toNat ++ [blank] ++ genericMark ++ [blank] ++
    Text.decimalText record.rdata.length ++ (if record.rdata = [] then [] else [blank]) ++
    Text.hexText record.rdata ++ [newline]

def exportMasterFile (origin : Name) (records : List ZoneRecord) : Option (List (BitVec 8)) :=
  if !validName origin then none
  else if records.any fun record => !validName record.owner || decide (0xffff < record.rdata.length)
  then none
  else
    some (ascii "$ORIGIN " ++ masterNameText origin ++ [newline] ++ records.flatMap recordText)

end Export

end RouterSim.Dns.MasterFile
