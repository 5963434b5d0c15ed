import ReleasePipeline.Command

/-!
# `ReleasePipeline.Variant`: the variants of a release

A variant is one operating system that the program is built for. Its identifier names its
artifact and its report, and it knows how the compressor is installed on its hosts.
-/

set_option autoImplicit false

namespace ReleasePipeline

/-- An operating system to build for. -/
structure Variant where
  name : String
  os : String
  compressorInstall : Command
  deriving DecidableEq, Repr

namespace Variant

/-- The variant for macOS. -/
def osx : Variant := ⟨"macOS", "osx", ⟨"brew", ["install", "upx"]⟩⟩

/-- The variant for Linux. -/
def linux : Variant := ⟨"Linux", "linux", ⟨"sudo", ["apt-get", "install", "-y", "upx-ucl"]⟩⟩

/-- The variants that are built unless others are configured. -/
def defaults : List Variant := [osx, linux]

/-- The variant as it is shown. -/
def text (variant : Variant) : String :=
  variant.name ++ " (" ++ variant.os ++ ")"

instance : JsonForm Variant where
  toJson variant := .obj
    [("name", toJson variant.name), ("os", toJson variant.os),
     ("compressor_install", toJson variant.compressorInstall)]
  ofReading := Fields.record <|
    Variant.mk <$> .required "name" <*> .required "os" <*> .required "compressor_install"

end Variant
end ReleasePipeline
