/-!
# `ReleasePipeline.Text.Traits.Table`: how characters behave beside others

The words are the runs of all characters of version 17.0 of the character set, from the first one
on. A word is a number of characters, a letter for how they are written and joined, and, for marks
that have one, the number of their class. `Traits.ofLetter` says what the letters mean. Characters
that no folded text holds are counted with the ones before them.
-/

set_option autoImplicit false

namespace ReleasePipeline.Text

/-- The runs of the table of traits. -/
def traitLines : List String :=
  ["9O 5Z 14O 5Z 15O 10E 39O 26L 100O 24L 1O 449L 2O 7L 14O 2L 28O 1L 17O 21M230 1M232 4M220",
   "1M232 1M216 5M220 2M202 4M220 2M202 11M220 5M1 4M220 10M230 3M220 3M230 3M220 3M230 4M220",
   "1M230 1M232 2M220 1M230 1M233 2M234 1M233 2M234 1M233 14M230 4L 2O 127L 2O 139L 5M230 3M 255L",
   "7O 1M220 4M230 1M220 3M230 1M222 1M220 6M230 6M220 2M230 1M220 2M230 1M222 1M228 1M230 1M10",
   "1M11 1M12 1M13 1M14 1M15 1M16 1M17 1M18 2M19 1M20 1M21 1M22 1R 1M23 1R 1M24 1M25 1R 1M230",
   "1M220 1R 9M18 54R 2O 1R 2O 1R 1O 1R 2O 8M230 1M30 1M31 1M32 5R 1D 1R 4J 1D 1J 1D 1J 5D 4J 13D",
   "1R 7D 1J 2D 1M27 1M28 1M29 1M30 1M31 1M32 1M33 1M34 2M230 2M220 5M230 1M220 2M230 1M220 10A",
   "1O 2A 1R 2D 1M35 3J 5R 15D 18J 38D 1J 2D 9J 1D 1J 1D 1J 2D 2J 1R 1J 8M230 1O 4M230 1M220",
   "1M230 2R 2M230 1O 1M220 2M230 1M220 2J 10E 3D 2R 1D 16R 1J 1M36 3D 5J 4D 1J 9D 1J 1D 1J 1D 1J",
   "2D 1J 1M230 1M220 2M230 1M220 2M230 3M220 1M230 2M220 1M230 1M220 3M230 1M220 1M230 1M220",
   "1M230 1M220 1M230 1M220 4M230 1J 11D 3J 15D 2J 4D 1J 1D 2J 3D 2J 6D 38R 11M 25R 33D 7M230",
   "1M220 1M230 2R 4O 3R 1M220 24R 4M230 1R 9M230 1R 3M230 1R 7M230 16R 1J 5D 2J 1D 1J 10D 1J 1D",
   "3J 5M220 2R 1D 1R 4D 1R 1J 1D 26J 3R 1D 2R 5D 1J 8D 2M230 3M220 4M230 10D 3J 1R 1J 2D 2J 6D",
   "1J 15D 1R 5M230 5M220 15M230 1M220 2M230 1M220 2M230 1M220 3M230 3M220 1M27 1M28 1M29 3M230",
   "1M220 2M230 2M220 5M230 3M 1S 54L 1M 1S 1M7 1L 3S 8M 4S 1M9 2S 1L 1M230 1M220 2M230 11M 2L 2M",
   "29L 1M 3S 55L 1M7 1L 3S 6M 6S 1M9 9L 9S 2L 4M 12L 2O 7L 1O 2L 3M230 2M 2S 55L 2M7 3S 12M 4M9",
   "11M 20L 2M 3L 1M 11L 2M 2S 55L 1M7 1L 3S 8M 4S 3M9 18L 4M 11L 8O 1L 8M 3S 55L 1M7 1L 1S 1M 1S",
   "6M 6S 8M9 2M 8S 3L 4M 28L 1M 59L 2S 1M 12S 3M9 7L 15S 13L 13O 1M 3S 1M 55L 1M7 1L 3M 5S 7M",
   "8M9 1M84 2M91 10L 4M 18L 7O 2L 1M 2S 56L 1M7 1L 1S 1T 6S 1T 5S 1M 8M9 7S 6L 4M 13L 13S 2M 2S",
   "55L 2M9 1L 3S 5M 7S 1M9 9L 1S 10L 4M 27L 1M 3S 69L 5M9 3S 6M 14S 12L 2S 61L 1M 2L 4M 2M103",
   "5M9 1O 7L 1M 4M107 3M 98L 1M 2L 4M 2M118 1M9 2M 11L 4M122 4M 72L 2M220 27L 1M220 1L 1M220 1L",
   "1M216 4O 2S 49L 1M129 2M130 6M132 4M130 1M 1S 2M130 2M230 1M9 1L 2M230 5L 49M 8L 1M220 100L",
   "2S 4M 1S 5M 1M7 1S 2M9 2S 2M 23L 2S 2M 4L 3M 1L 3S 2L 7S 3L 4M 13L 1M 2S 2M 6S 1M220 1L 1S",
   "10L 3S 1M 703L 3M230 48L 16O 96L 1O 666L 5O 114L 2M 1M9 10S9 19L 2M 1S9 29L 14M 18L 14M 54L",
   "1S 7M 8S 1M 2S 9M 1M9 1M 7L 1O 1L 3M230 16L 23O 1o 8O 16L 96d 5L 2M 34d 1M228 6d 112L 3M 4S",
   "2M 9S 1M 6S 1M222 1M230 5M220 6O 152L 34O 23L 1M230 1M220 2S 3M 55L 1S 1M 1S 8M 1M9 1S 1M 2S",
   "8M 6S 2M 10M230 1M220 48L 5M230 6M220 2M230 1M220 1M 2M220 2M230 2M220 5M230 1M220 18M230",
   "3M220 6M230 1M220 4M230 21M234 4M 1S 47L 1M7 1S 5M 1S 1M 5S 1M 1S 1S9 38L 1M230 1M220 7M230",
   "12L 2M 1S 30L 1S 4M 2S 2M 1S9 1M9 2M 56L 1M7 1S 2M 3S 1M 1S 3M 10S9 40L 8S 8M 2S 1M 4M7 149L",
   "3M230 1L 1M1 5M220 2M230 4M220 1M230 1S 7M1 4L 1M220 6L 1M230 2L 1S 2M230 198L 2M230 1M220",
   "7M230 1M220 2M230 1M234 1M214 1M220 1M202 37M230 1M232 2M228 1M220 1M218 1M230 1M233 1M220",
   "1M230 2M220 523L 196O 2M230 2M1 4M230 3M1 2M230 4M 1M230 3M 2M1 1M230 1M220 1M230 2M1 4M220",
   "20M230 74O 60L 428O 69L 26O 1L 145O 25L 620O 1L 339O 256L 662O 1L 153O 181L 7O 3L 4M230 6L 7O",
   "127L 1M9 96L 32M230 517O 3L 25O 9L 1M218 1M228 1M232 1M222 2S224 1O 6L 4O 2L 4O 88L 4M8 3L 1O",
   "90L 1O 196L 36O 7132L 64O 22160L 64O 317L 3O 95L 1M230 3M 1O 10M230 3O 29L 2M230 80L 2M230",
   "14L 35O 101L 1O 121L 1M 3L 1M9 4L 1M 23L 2S 2M 1S 4O 4M9 8L 8O 50d 1f 1L 12O 2S 50L 16S 1M9",
   "9M 18L 18M230 13L 1M 38L 5M 3M220 25L 11M 1S 12S9 33L 3M 1S 47L 1M7 2S 4M 2S 2M 2S 1S9 36L 1M",
   "67L 6M 2S 2M 2S 11M 3L 1M 8L 1M 3S 43L 1S 1M 1S 50L 1M230 1L 2M230 1M220 2L 2M230 5L 2M230 1L",
   "1M230 41L 1S 2M 2S 5L 1S 11M9 105L 86O 35L 2S 1M 2S 1M 2S 1L 1S 3M9 20270L 148M26 396R 82O",
   "63R 81O 7M230 7M220 23M230 46O 397R 257L 1O 62L 77O 3L 64O 45L 131M220 96L 1M220 31E 118L",
   "10M230 1152L 287R 1O 225R 12M 1M220 1M 1M230 40R 1M230 1M1 5M220 1M9 128R 5D 1J 1R 1J 1R 2J",
   "2R 1F 5J 4D 1F 5D 1J 3D 1J 2R 1J 1M230 5M220 4D 1J 73R 7O 64R 1D 1J 1D 3J 3D 1J 2D 1J 1D 2J",
   "1D 8J 16R 4J 2D 337R 1F 33D 1J 1D 12M230 16A 41R 5M230 242R 32A 43R 2M230 21R 1J 2D 1R 10D",
   "42R 2M220 1M 3M220 48R 3D 1J 17D 1R 2M220 3M230 1M220 1M230 4M220 3D 1J 27R 4D 2J 12D 1M230",
   "1M220 1M230 1M220 42R 1D 1R 2D 3J 1R 1D 2J 2D 1J 2D 1R 1D 2J 1D 4R 1J 1D 21F 32R 1S 1M 1S 53L",
   "14M 1M9 11L 20O 10L 1M9 2L 2M 10L 1M9 2M 1S 45L 3S 4M 2S 1M9 1M7 7L 14M 48L 3M230 36L 5M 1S",
   "6M 3M9 15L 2S 44L 1M7 12L 2M 1S 48L 3S 9M 1S 1S9 8L 1M 1M7 2M 1L 1S 1M 92L 3S 3M 2S 1M 1S9",
   "1M7 1M 6L 1M 2L 63M 95L 1M 3S 6M 1M7 6M9 16L 2M 3S 54L 2M7 1L 2S 1M 12S 3S9 7L 6S 5L 4S",
   "26M230 56L 3N 7M 12N 1M9 1N9 1M9 1L 1M 14L 31M 53L 3S 8M 2S 1M9 2M 1S 1M7 23L 1M230 81L 3S 6M",
   "1S 1M 4S 2M 1S 1M9 1M7 235L 3S 6M 4S 2M 1S 1M9 1M7 27L 36M 48L 3S 8M 2S 1M 1S 1M9 1M 31L 32O",
   "43L 1M 1S 1M 2S 6M 1S9 1M7 101L 1M 1N 1M 2S 4M 1S 4M 5M9 252L 3S 9M 1S 1M9 1M7 245L 11S 2M",
   "1S9 1M9 1L 1S 1L 1S 1M7 141L 3S 8M 4S 1M9 3L 28S 1L 6M 2T 2M 40L 1M 1M9 4M 1S 1L 4M 8L 9M9 1L",
   "6M 2S 3M 46L 13M 1S 1M 1M9 198L 1M 1N 3M 1N 1M 89N 111L 1S 14M 1S 1T9 82L 23M 1S 7M 1S 2M 1S",
   "75M 49L 17M 1M7 1M 2M9 1L 9M 58L 6S 3M 2S 1M 1S 1M9 347L 2M 2S 9L 2M 1L 1S 48L 2S 8M 2S 1M",
   "1S9 1M9 23L 86M 37L 42O 5185L 1M 6L 25M 11454L 12M 3N 2M 1M9 2496L 5M1 59L 7M230 1048L 1M 1L",
   "62S 4M 79L 1O 1L 12M 2S6 19627L 1M 1M1 4705L 80M 533L 2S216 3M1 3L 1S226 13S216 8M220 2L",
   "5M230 2M220 30L 4M230 59L 89O 3M230 123O 64L 96O 1696L 55M 4L 50M 8L 1M 14L 1M 22L 1125M 256L",
   "256M230 48L 7M230 375L 18M230 44L 4M230 15L 465O 28L 2M232 1M220 1M230 254L 1M230 1M220 243L",
   "1M230 2L 1M230 7L 2M230 5L 9M230 258L 208R 82M220 34D 6M230 1M7 5t 1440R 608O 29L 3O 61L 57O",
   "122L 1144O 4L 155O 4L 311O 78L 340O 12L 41O 7L 46O 1L 7O 8L 14O 4L 9O 7L 219O 984117L"]

end ReleasePipeline.Text
