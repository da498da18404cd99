import RemoteDevice.Descriptor.Basic
import RemoteDevice.Descriptor.Error
import RemoteDevice.Text.Blank

/-!
Writing a descriptor as `tag://user:password:name:host:port:psk`. Nothing is escaped, so a field
that would not be read back as it is cannot be written; the checks name the first such field.
-/
set_option autoImplicit false

namespace RemoteDevice.Descriptor

def isTag (tag : String) : Bool := !tag.isEmpty && tag.toList.all Char.isAlphanum

def checkTag (tag : String) : Except FieldError Unit :=
  if isTag tag then .ok () else .error ⟨.tag, .badTag tag⟩

def checkPort (port : UInt16) : Except FieldError Unit :=
  if port = 0 then .error ⟨.port, .zeroPort⟩ else .ok ()

def isLineBreak (c : Char) : Bool := c = '\n' || c = '\r'

/-- A field may hold neither the delimiter nor a line break. -/
def checkText (field : DescriptorField) (text : String) : Except FieldError Unit :=
  if text.toList.contains ':' then .error ⟨field, .delimiter⟩
  else if text.toList.any isLineBreak then .error ⟨field, .lineBreak⟩
  else .ok ()

/-- A host may be neither blank nor have blanks around it. -/
def checkHost (host : String) : Except FieldError Unit :=
  if (Text.trim host).isEmpty then .error ⟨.host, .blankHost⟩
  else if Text.trim host ≠ host then .error ⟨.host, .paddedHost⟩
  else .ok ()

/-- The texts of a descriptor in the order of their checks. -/
def texts (d : Descriptor) : List (DescriptorField × String) :=
  [(.user, d.user), (.password, d.password), (.name, d.name), (.host, d.host),
    (.psk, d.psk.getD "")]

def check (d : Descriptor) : Except FieldError Unit := do
  checkTag d.tag
  checkPort d.port
  d.texts.forM fun (field, text) => checkText field text
  checkHost d.host

/-- What stands between the delimiters. -/
def fields (d : Descriptor) : List String :=
  [d.user, d.password, d.name, d.host, toString d.port.toNat, d.psk.getD ""]

/-- The written form, without regard to whether it can be read back. -/
def print (d : Descriptor) : String := d.tag ++ "://" ++ String.intercalate ":" d.fields

def encode (d : Descriptor) : Except FieldError String := do
  d.check
  return d.print

end RemoteDevice.Descriptor
