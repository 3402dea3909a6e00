import FormCompiler.Text.Printable
import FormCompiler.Text.Digit

set_option autoImplicit false

namespace FormCompiler.Text

def quoteFor (chars : List Char) : Char :=
  if chars.contains '\'' && !chars.contains '"' then '"' else '\''

def quotedChar (quote : Char) (c : Char) : List Char :=
  if c = quote || c = '\\' then ['\\', c]
  else if c = '\n' then ['\\', 'n']
  else if c = '\r' then ['\\', 'r']
  else if c = '\t' then ['\\', 't']
  else if isPrintable c then [c]
  else if c.toNat < 256 then '\\' :: 'x' :: (hexText 2 c.toNat).toList
  else if c.toNat < 65536 then '\\' :: 'u' :: (hexText 4 c.toNat).toList
  else '\\' :: 'U' :: (hexText 8 c.toNat).toList

def quotedBy (quote : Char) (chars : List Char) : List Char :=
  quote :: (chars.flatMap (quotedChar quote) ++ [quote])

def quotedChars (chars : List Char) : List Char :=
  quotedBy (quoteFor chars) chars

def quoted (text : String) : String :=
  String.ofList (quotedChars text.toList)

def quotedByte (quote : Char) (byte : UInt8) : List Char :=
  let c := Char.ofNat byte.toNat
  if byte.toNat < 128 then quotedChar quote c
  else '\\' :: 'x' :: (hexText 2 byte.toNat).toList

def quotedBytes (bytes : List UInt8) : String :=
  let quote := quoteFor (bytes.map fun byte => Char.ofNat byte.toNat)
  String.ofList ('b' :: quote :: (bytes.flatMap (quotedByte quote) ++ [quote]))

end FormCompiler.Text
