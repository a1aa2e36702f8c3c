import Sift.Taxonomy

/-!
# The default taxonomy

Images, sound, games and applications. Games and applications have no type split.
-/

namespace Sift.Taxonomy

/-- A dimension from its label and its leaves. -/
def dimensionOf (label : String) (leaves : List (String × String × List String)) : Dimension :=
  { label := .str label
    leaves := .ofList (leaves.map fun l => (l.1, ⟨.str l.2.1, l.2.2, []⟩)) }

/-- A head from its number, its label, its types and its dimensions. -/
def headOf (id : Int) (label : String) (types : List (String × String))
    (dimensions : List (String × Dimension)) : Int × Head :=
  (id, { id, label := .str label, types := .ofList types, dimensions := .ofList dimensions })

/-- The types of moving images. -/
def video : List String := ["z0", "z1", "z3"]

/-- All types of images. -/
def image : List String := ["z0", "z1", "z2", "z3"]

/-- All types of sound. -/
def sound : List String := ["z0", "z1", "z2", "z3"]

def imageFormats : Dimension :=
  dimensionOf "Format"
    [("0", "DivX", video), ("1", "WMV", video), ("2", "MPG", video), ("3", "DVD5", video),
     ("4", "HD other", video), ("5", "ePub", ["z2"]), ("6", "Blu-ray", video),
     ("7", "HD-DVD", video), ("8", "WMVHD", video), ("9", "x264HD", video), ("10", "DVD9", video),
     ("11", "PDF", ["z2"]), ("12", "Bitmap", ["z2"]), ("13", "Vector", ["z2"])]

def imageSources : Dimension :=
  dimensionOf "Source"
    [("0", "CAM", video), ("1", "(S)VCD", video), ("2", "Promo", video), ("3", "Retail", image),
     ("4", "TV", video), ("6", "Satellite", video), ("7", "R5", video), ("8", "Telecine", video),
     ("9", "Telesync", video), ("10", "Scan", ["z2"])]

def imageLanguages : Dimension :=
  dimensionOf "Language"
    [("0", "No subtitles", video), ("1", "Dutch subtitles (external)", video),
     ("2", "Dutch subtitles (built-in)", video), ("3", "English subtitles (external)", video),
     ("4", "English subtitles (built-in)", video), ("6", "Dutch subtitles (available)", video),
     ("7", "English subtitles (available)", video), ("10", "English audio/written", image),
     ("11", "Dutch audio/written", image), ("12", "German audio/written", image),
     ("13", "French audio/written", image), ("14", "Spanish audio/written", image)]

def imageGenres : Dimension :=
  dimensionOf "Genre"
    [("0", "Action", ["z0", "z1"]), ("1", "Adventure", ["z0", "z1", "z2"]),
     ("2", "Animation", ["z0", "z1"]), ("3", "Cabaret", ["z0", "z1"]),
     ("4", "Comedy", ["z0", "z1", "z2"]), ("5", "Crime", ["z0", "z1", "z2"]),
     ("6", "Documentary", ["z0", "z1"]), ("7", "Drama", ["z0", "z1", "z2"]),
     ("8", "Family", ["z0", "z1"]), ("9", "Fantasy", ["z0", "z1", "z2"]),
     ("11", "TV series", ["z1"]), ("12", "Horror", ["z0", "z1", "z2"]),
     ("13", "Music", ["z0", "z1"]), ("15", "Mystery", ["z0", "z1", "z2"]),
     ("16", "Romance", ["z0", "z1", "z2"]), ("17", "Science fiction", ["z0", "z1", "z2"]),
     ("18", "Sport", ["z0", "z1", "z2"]), ("20", "Thriller", ["z0", "z1", "z2"]),
     ("21", "War", ["z0", "z1", "z2"]), ("22", "Western", ["z0", "z1"]), ("29", "Study", ["z2"]),
     ("30", "Cooking", ["z2"]), ("31", "Travel", ["z2"]), ("75", "Hetero", ["z3"]),
     ("76", "Gay", ["z3"]), ("77", "Lesbian", ["z3"]), ("78", "Bi", ["z3"])]

def soundFormats : Dimension :=
  dimensionOf "Format"
    [("0", "MP3", sound), ("1", "WMA", sound), ("2", "WAV", sound), ("3", "OGG", sound),
     ("4", "EAC", sound), ("5", "DTS", sound), ("6", "AAC", sound), ("7", "APE", sound),
     ("8", "FLAC", sound)]

def soundSources : Dimension :=
  dimensionOf "Source"
    [("0", "CD", sound), ("1", "Radio", sound), ("2", "Compilation", sound), ("3", "DVD", sound),
     ("5", "Vinyl", sound), ("6", "Stream", sound)]

def soundBitrates : Dimension :=
  dimensionOf "Bitrate"
    [("0", "Variable", sound), ("1", "< 96kbit", sound), ("2", "96kbit", sound),
     ("3", "128kbit", sound), ("4", "160kbit", sound), ("5", "192kbit", sound),
     ("6", "256kbit", sound), ("7", "320kbit", sound), ("8", "Lossless", sound)]

def soundGenres : Dimension :=
  dimensionOf "Genre"
    [("0", "Blues", ["z0", "z1"]), ("2", "Cabaret", ["z0", "z1", "z2"]),
     ("3", "Dance", ["z0", "z1", "z2"]), ("5", "Hardcore", ["z0", "z1"]),
     ("6", "World", ["z0", "z1"]), ("7", "Jazz", ["z0", "z1"]), ("8", "Youth", sound),
     ("9", "Classical", ["z0", "z1"]), ("11", "Dutch", ["z0", "z1", "z2"]),
     ("13", "Pop", ["z0", "z1"]), ("14", "RnB", ["z0", "z1"]), ("15", "Hiphop", ["z0", "z1"]),
     ("16", "Reggae", ["z0", "z1"]), ("18", "Rock", ["z0", "z1"]), ("19", "Soundtracks", ["z0"]),
     ("31", "Electronic", ["z0", "z1", "z2"]), ("40", "Fiction", ["z3"]),
     ("41", "Non-fiction", ["z3"])]

def gamePlatforms : Dimension :=
  dimensionOf "Platform"
    [("0", "Windows", ["zz"]), ("1", "Macintosh", ["zz"]), ("2", "Linux", ["zz"]),
     ("3", "Playstation", ["zz"]), ("4", "Playstation 2", ["zz"]), ("5", "PSP", ["zz"]),
     ("6", "Xbox", ["zz"]), ("7", "Xbox 360", ["zz"]), ("8", "Gameboy Advance", ["zz"]),
     ("9", "Gamecube", ["zz"]), ("10", "Nintendo DS", ["zz"]), ("11", "Nintendo Wii", ["zz"]),
     ("12", "Playstation 3", ["zz"])]

def gameFormats : Dimension :=
  dimensionOf "Format"
    [("0", "ISO", ["zz"]), ("1", "Rip", ["zz"]), ("2", "Retail", ["zz"]), ("3", "DLC", ["zz"]),
     ("5", "Patch", ["zz"]), ("6", "Crack", ["zz"])]

def gameGenres : Dimension :=
  dimensionOf "Genre"
    [("0", "Action", ["zz"]), ("1", "Adventure", ["zz"]), ("2", "Strategy", ["zz"]),
     ("3", "Role playing", ["zz"]), ("4", "Simulation", ["zz"]), ("5", "Racing", ["zz"]),
     ("6", "Flying", ["zz"]), ("7", "Shooter", ["zz"]), ("8", "Platform", ["zz"]),
     ("9", "Sport", ["zz"]), ("10", "Children", ["zz"]), ("11", "Puzzle", ["zz"])]

def applicationPlatforms : Dimension :=
  dimensionOf "Platform"
    [("0", "Windows", ["zz"]), ("1", "Macintosh", ["zz"]), ("2", "Linux", ["zz"]),
     ("3", "OS/2", ["zz"]), ("4", "Windows Phone", ["zz"]), ("5", "Navigation", ["zz"]),
     ("6", "iOS", ["zz"]), ("7", "Android", ["zz"])]

def applicationGenres : Dimension :=
  dimensionOf "Genre"
    [("0", "Audio", ["zz"]), ("1", "Video", ["zz"]), ("2", "Graphics", ["zz"]),
     ("3", "CD/DVD tools", ["zz"]), ("4", "Media players", ["zz"]),
     ("5", "Rippers & encoders", ["zz"]), ("6", "Plugins", ["zz"]),
     ("7", "Database tools", ["zz"]), ("8", "Email software", ["zz"]), ("9", "Photo", ["zz"]),
     ("12", "Drivers", ["zz"]), ("13", "Browsers", ["zz"]), ("16", "Usenet software", ["zz"]),
     ("20", "Antivirus", ["zz"]), ("24", "System software", ["zz"]), ("25", "Other", ["zz"]),
     ("27", "Office", ["zz"]), ("30", "Development", ["zz"])]

/-- The taxonomy that spots are classified under. -/
def default : Taxonomy where
  heads := .ofList [
    headOf 0 "Image"
      [("z0", "Movie"), ("z1", "Series"), ("z2", "Book"), ("z3", "Erotic")]
      [("a", imageFormats), ("b", imageSources), ("c", imageLanguages), ("d", imageGenres)],
    headOf 1 "Sound"
      [("z0", "Album"), ("z1", "Liveset"), ("z2", "Podcast"), ("z3", "Audiobook")]
      [("a", soundFormats), ("b", soundSources), ("c", soundBitrates), ("d", soundGenres)],
    headOf 2 "Games"
      [("zz", "Everything")]
      [("a", gamePlatforms), ("b", gameFormats), ("c", gameGenres)],
    headOf 3 "Applications"
      [("zz", "Everything")]
      [("a", applicationPlatforms), ("b", applicationGenres)]]

end Sift.Taxonomy
