/-!
# Bytes as text

Files, environment variables and the output of commands arrive as bytes.
Two readings are needed. The strict one refuses bytes that are not UTF-8;
the lenient one puts the replacement character in place of each part that
cannot belong to any character, and takes as much as it can for one such
part: a sequence that was cut short counts once, a byte that can start
nothing counts on its own.
-/

namespace LedgerNet.Text

/-- What stands at the front of a sequence of bytes. -/
inductive Utf8Front where
  /-- A character, written in this many bytes. -/
  | char (c : Char) (length : Nat)
  /-- This many bytes, at least one, that no character starts with. -/
  | broken (length : Nat)

/-- Whether a byte continues a sequence. -/
def isContinuation (b : UInt8) : Bool :=
  0x80 ≤ b && b ≤ 0xbf

/-- The second bytes that may follow a given first byte of a sequence of
three or four: narrower than the continuation bytes after those first bytes
that could otherwise start an overlong form, a surrogate or a value past the
last code point. -/
def secondByteOk (first second : UInt8) : Bool :=
  if first == 0xe0 then 0xa0 ≤ second && second ≤ 0xbf
  else if first == 0xed then 0x80 ≤ second && second ≤ 0x9f
  else if first == 0xf0 then 0x90 ≤ second && second ≤ 0xbf
  else if first == 0xf4 then 0x80 ≤ second && second ≤ 0x8f
  else isContinuation second

/-- The six bits a continuation byte carries. -/
def continuationBits (b : UInt8) : Nat :=
  b.toNat % 64

/-- **The front of a non-empty sequence of bytes**, given as its first byte
and the bytes after it. -/
def utf8Front (first : UInt8) (rest : List UInt8) : Utf8Front :=
  if first < 0x80 then .char (Char.ofNat first.toNat) 1
  else if 0xc2 ≤ first && first ≤ 0xdf then
    match rest with
    | second :: _ =>
      if isContinuation second then
        .char (Char.ofNat ((first.toNat % 32) * 64 + continuationBits second)) 2
      else .broken 1
    | [] => .broken 1
  else if 0xe0 ≤ first && first ≤ 0xef then
    match rest with
    | second :: third? =>
      if secondByteOk first second then
        match third? with
        | third :: _ =>
          if isContinuation third then
            .char (Char.ofNat ((first.toNat % 16) * 4096 + continuationBits second * 64
              + continuationBits third)) 3
          else .broken 2
        | [] => .broken 2
      else .broken 1
    | [] => .broken 1
  else if 0xf0 ≤ first && first ≤ 0xf4 then
    match rest with
    | second :: third? =>
      if secondByteOk first second then
        match third? with
        | third :: fourth? =>
          if isContinuation third then
            match fourth? with
            | fourth :: _ =>
              if isContinuation fourth then
                .char (Char.ofNat ((first.toNat % 8) * 262144 + continuationBits second * 4096
                  + continuationBits third * 64 + continuationBits fourth)) 4
              else .broken 3
            | [] => .broken 3
          else .broken 2
        | [] => .broken 2
      else .broken 1
    | [] => .broken 1
  else .broken 1

/-- The strict reading: all of the bytes, or nothing. -/
def decodeUtf8Chars (bytes : List UInt8) : Option (List Char) :=
  match bytes with
  | [] => some []
  | first :: rest =>
    match utf8Front first rest with
    | .char c length => (decodeUtf8Chars (rest.drop (length - 1))).map (c :: ·)
    | .broken _ => none
termination_by bytes.length
decreasing_by simp only [List.length_drop, List.length_cons]; omega

/-- The lenient reading: the replacement character stands for each broken
part. -/
def decodeUtf8LossyChars (bytes : List UInt8) : List Char :=
  match bytes with
  | [] => []
  | first :: rest =>
    match utf8Front first rest with
    | .char c length => c :: decodeUtf8LossyChars (rest.drop (length - 1))
    | .broken length => '\uFFFD' :: decodeUtf8LossyChars (rest.drop (length - 1))
termination_by bytes.length
decreasing_by all_goals (simp only [List.length_drop, List.length_cons]; omega)

/-- **Strict UTF-8**: the text that the bytes encode, if they encode one. -/
def decodeUtf8? (bytes : List UInt8) : Option String :=
  (decodeUtf8Chars bytes).map String.ofList

/-- **Lenient UTF-8**: the text with replacement characters for what does
not decode. -/
def decodeUtf8Lossy (bytes : List UInt8) : String :=
  String.ofList (decodeUtf8LossyChars bytes)

/-- The bytes of a text in UTF-8. -/
def utf8Bytes (s : String) : List UInt8 :=
  s.toUTF8.toList

end LedgerNet.Text
