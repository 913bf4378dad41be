/-! # The command catalog

Every command of the label language. A command outside the catalog is invalid; one inside it may still be
without effect here.
-/

namespace LabelPreview

/-- How far a command is carried out. -/
inductive Support where
  | full
  | partly
  | absent
  | notApplicable
  deriving DecidableEq, Repr

namespace Support

def message : Support → String
  | .full => "Fully implemented"
  | .partly => "Partially implemented, some parameters are ignored"
  | .absent => "Not implemented yet"
  | .notApplicable => "Not applicable to label previews"

end Support

structure CatalogEntry where
  command : String
  title : String
  description : String
  /-- Parameter layout as printed in the programming guide, empty if unknown. -/
  layout : String
  /-- Page in the programming guide, 0 if unknown. -/
  page : Nat
  support : Support

namespace Catalog

set_option maxRecDepth 4000 in
def entries : List CatalogEntry := [
  ⟨"^A", "Scalable/Bitmapped Font", "Set the font to be used for the following text field.", "^Afo,h,w", 60, .partly⟩,
  ⟨"^A@", "Use Font Name to Call Font", "Use a specific font name stored in printer memory instead of the font specified by ^A.", "", 0, .absent⟩,
  ⟨"^B0", "Aztec Bar Code Parameters", "Aztec Bar Code Parameters allow the configuration of the Aztec 2D barcode symbology.", "", 0, .absent⟩,
  ⟨"^B1", "Code 11 Bar Code", "Generate a Code 11 Bar Code.", "", 0, .absent⟩,
  ⟨"^B2", "Interleaved 2 of 5 Bar Code", "Generate an Interleaved 2 of 5 Bar Code.", "", 0, .absent⟩,
  ⟨"^B3", "Code 39 Bar Code", "Generate a Code 39 Bar Code.", "^B3o,e,h,f,g", 0, .partly⟩,
  ⟨"^B4", "Code 49 Bar Code", "Generate a Code 49 Bar Code.", "", 0, .absent⟩,
  ⟨"^B5", "Planet Code Bar Code", "Generate a Planet Code Bar Code.", "", 0, .absent⟩,
  ⟨"^B7", "PDF417 Bar Code", "Generate a PDF417 Bar Code.", "", 0, .absent⟩,
  ⟨"^B8", "EAN-8 Bar Code", "Generate an EAN-8 Bar Code.", "", 0, .absent⟩,
  ⟨"^B9", "UPC-E Bar Code", "Generate an UPC-E Bar Code.", "", 0, .absent⟩,
  ⟨"^BA", "Code 93 Bar Code", "Generate a Code 93 Bar Code.", "", 0, .absent⟩,
  ⟨"^BB", "CODABLOCK Bar Code", "Generate a CODABLOCK Bar Code.", "", 0, .absent⟩,
  ⟨"^BC", "Code 128 Bar Code (Subsets A, B, and C)", "Generate a Code 128 Bar Code (Subsets A, B, and C).", "^BCo,h,f,g,e,m", 0, .partly⟩,
  ⟨"^BD", "UPS MaxiCode Bar Code", "Generate an UPS MaxiCode Bar Code.", "", 0, .absent⟩,
  ⟨"^BE", "EAN-13 Bar Code", "Generate an EAN-13 Bar Code.", "^BEo,h,f,g", 0, .partly⟩,
  ⟨"^BF", "Micro-PDF417 Bar Code", "Generate a Micro-PDF417 Bar Code.", "", 0, .absent⟩,
  ⟨"^BI", "Industrial 2 of 5 Bar Codes", "Generate an Industrial 2 of 5 Bar Code.", "", 0, .absent⟩,
  ⟨"^BJ", "Standard 2 of 5 Bar Code", "Generate a Standard 2 of 5 Bar Code.", "", 0, .absent⟩,
  ⟨"^BK", "ANSI Codabar Bar Code", "Generate an ANSI Codabar Bar Code.", "", 0, .absent⟩,
  ⟨"^BL", "LOGMARS Bar Code", "Generate a LOGMARS Bar Code.", "", 0, .absent⟩,
  ⟨"^BM", "MSI Bar Code", "Generate an MSI Bar Code.", "", 0, .absent⟩,
  ⟨"^BO", "Aztec Bar Code Parameters", "Generate an Aztec Bar Code.", "", 0, .absent⟩,
  ⟨"^BP", "Plessey Bar Code", "Generate a Plessey Bar Code.", "", 0, .absent⟩,
  ⟨"^BQ", "QR Code Bar Code", "Generate a QR Code Bar Code.", "^BQa,b,c", 0, .partly⟩,
  ⟨"^BR", "RSS (Reduced Space Symbology) Bar Code", "Generate an RSS (Reduced Space Symbology) Bar Code.", "", 0, .absent⟩,
  ⟨"^BS", "UPC/EAN Extensions", "", "", 0, .absent⟩,
  ⟨"^BT", "TLC39 Bar Code", "Generate a TLC39 Bar Code.", "", 0, .absent⟩,
  ⟨"^BU", "UPC-A Bar Code", "Generate an UPC-A Bar Code.", "", 0, .absent⟩,
  ⟨"^BX", "Data Matrix Bar Code", "Generate a Data Matrix Bar Code.", "^BXo,h", 0, .partly⟩,
  ⟨"^BY", "Bar Code Field Default", "Set the default bar code field parameters.", "^BYw,r,h", 0, .partly⟩,
  ⟨"^BZ", "POSTNET Bar Code", "Generate a POSTNET Bar Code.", "", 0, .absent⟩,
  ⟨"^CC", "~CC Change Carets", "Change the behavior of caret characters ('^') in ZPL commands.", "", 0, .absent⟩,
  ⟨"^CD", "~CD Change Delimiter", "Change the current delimiter used for separating commands in ZPL.", "", 0, .absent⟩,
  ⟨"^CF", "Change Alphanumeric Default Font", "Change the default alphanumeric font.", "^CFf,h,w", 0, .partly⟩,
  ⟨"^CI", "Change International Font/Encoding", "Change the default international font/encoding.", "", 0, .absent⟩,
  ⟨"^CM", "Change Memory Letter Designation", "Change the memory letter designation of stored objects.", "", 0, .absent⟩,
  ⟨"^CO", "Cache On", "Enable caching for faster processing or retrieval of data.", "", 0, .absent⟩,
  ⟨"^CT", "~CT Change Tilde", "Change the behavior of tilde characters ('~') in ZPL commands.", "", 0, .absent⟩,
  ⟨"^CV", "Code Validation", "Verify and validate the structure or content of a specified code.", "", 0, .absent⟩,
  ⟨"^CW", "Font Identifier", "Identify and specify a font to be used for text fields within a ZPL document.", "", 0, .absent⟩,
  ⟨"~DB", "Download Bitmap Font", "Download a bitmap font to the printer for later use.", "", 0, .notApplicable⟩,
  ⟨"~DE", "Download Encoding", "Used to download character encoding information to the printer.", "", 0, .notApplicable⟩,
  ⟨"^DF", "Download Format", "Defines and downloads a format template to the printer.", "", 0, .notApplicable⟩,
  ⟨"~DG", "Download Graphics", "Sends graphic data to the printer for later use.", "", 0, .notApplicable⟩,
  ⟨"~DN", "Abort Download Graphic", "Cancels or aborts a graphic download in progress.", "", 0, .notApplicable⟩,
  ⟨"~DS", "Download Intellifont (Scalable Font)", "Allows the download of scalable Intellifont fonts.", "", 0, .notApplicable⟩,
  ⟨"~DT", "Download Bounded TrueType Font", "Downloads a TrueType font with bounding box constraints.", "", 0, .notApplicable⟩,
  ⟨"~DU", "Download Unbounded TrueType Font", "Downloads a TrueType font without bounding box constraints.", "", 0, .notApplicable⟩,
  ⟨"~DY", "Download Graphics/Native TrueType or OpenType Font", "Downloads graphics or native TrueType/OpenType font files.", "", 0, .notApplicable⟩,
  ⟨"~EG", "Erase Download Graphics", "Erase downloaded graphics from the printer.", "", 0, .notApplicable⟩,
  ⟨"^FB", "Field Block", "Defines a block of text, including line length and alignment settings.", "^FBa,b,c,d,e", 0, .partly⟩,
  ⟨"^FC", "Field Clock (for Real-Time Clock)", "Displays a real-time clock field using the current time and date.", "", 0, .absent⟩,
  ⟨"^FD", "Field Data", "Specifies the text or data to be printed in the field.", "^FDa", 0, .full⟩,
  ⟨"^FH", "Field Hexadecimal Indicator", "Indicates that the data contains hexadecimal character codes.", "^FHa", 0, .full⟩,
  ⟨"^FM", "Multiple Field Origin Locations", "Specifies multiple locations for a field origin.", "", 0, .absent⟩,
  ⟨"^FN", "Field Number", "Assigns a number to a field for later variable replacement.", "", 0, .absent⟩,
  ⟨"^FO", "Field Origin", "Set the field origin relative to label home ^LH.", "^FOx,y,z", 201, .full⟩,
  ⟨"^FP", "Field Parameter", "Specifies additional formatting parameters for a field.", "", 0, .absent⟩,
  ⟨"^FR", "Field Reverse Print", "Inverts the field's printing, producing an inverse filter effect.", "^FR", 0, .full⟩,
  ⟨"^FS", "Field Separator", "Indicates the end of a field and moves the cursor to the next position.", "^FS", 0, .full⟩,
  ⟨"^FT", "Field Typeset", "Specifies the starting point for a field relative to the label origin.", "^FTx,y,z", 0, .partly⟩,
  ⟨"^FV", "Field Variable", "Used to input variable data into a field within the template.", "", 0, .absent⟩,
  ⟨"^FW", "Field Orientation", "Sets the orientation for field data displayed or printed.", "", 0, .absent⟩,
  ⟨"^FX", "Comment", "Allows the insertion of comments or remarks in the ZPL code, which are ignored by the printer.", "^FXc", 0, .full⟩,
  ⟨"^GB", "Graphic Box", "Used to draw boxes and lines", "^GBw,h,t,c,r", 210, .full⟩,
  ⟨"^GC", "Graphic Circle", "Used to draw circles", "", 0, .absent⟩,
  ⟨"^GD", "Graphic Diagonal Line", "Used to draw diagonal lines", "", 0, .absent⟩,
  ⟨"^GE", "Graphic Ellipse", "Used to draw ellipses", "", 0, .absent⟩,
  ⟨"^GF", "Graphic Field", "Used to define and load a graphic image directly into the label format.", "^GFa,b,c,d,data", 0, .partly⟩,
  ⟨"^GS", "Graphic Symbol", "Used to call a previously stored graphic symbol to print within a label.", "", 0, .notApplicable⟩,
  ⟨"~HB", "Battery Status", "Queries the printer's battery status, including charge level and health.", "", 0, .notApplicable⟩,
  ⟨"~HD", "Head Diagnostic", "Performs diagnostics to check the health and functionality of the printhead.", "", 0, .notApplicable⟩,
  ⟨"^HF", "Host Format", "Specifies the format of host data, allowing custom input for label templates.", "", 0, .absent⟩,
  ⟨"^HG", "Host Graphic", "Allows the user to send graphic data from the host to the printer.", "", 0, .absent⟩,
  ⟨"^HH", "Configuration Label Return", "Returns the current configuration of the printer.", "", 0, .notApplicable⟩,
  ⟨"~HI", "Host Identification", "Identifies the host machine communicating with the printer.", "", 0, .notApplicable⟩,
  ⟨"~HM", "Host RAM Status", "Returns the status and available memory in the host system RAM.", "", 0, .notApplicable⟩,
  ⟨"~HS", "Host Status Return", "Returns the current status of the printer, such as error codes and operational state.", "", 0, .notApplicable⟩,
  ⟨"~HU", "Return ZebraNet Alert Configuration", "Retrieves the current ZebraNet alert configuration settings.", "", 0, .notApplicable⟩,
  ⟨"^HV", "Host Verification", "Allows verification of host settings to ensure compatibility with the printer.", "", 0, .notApplicable⟩,
  ⟨"^HW", "Host Directory List", "Returns a list of files or objects stored in the printer's memory.", "", 0, .notApplicable⟩,
  ⟨"^HY", "Upload Graphics", "Uploads graphic data to the printer for use in labels.", "", 0, .notApplicable⟩,
  ⟨"^HZ", "Display Description Information", "Displays detailed information about the printer's capabilities or setup.", "", 0, .notApplicable⟩,
  ⟨"^ID", "Object Delete", "Deletes a specific object from the printer's memory, such as a stored label or graphic.", "", 0, .notApplicable⟩,
  ⟨"^IL", "Image Load", "Loads an image into the printer's memory for later use in label printing.", "", 0, .notApplicable⟩,
  ⟨"^IM", "Image Move", "Moves an image object to a new location within the printer's memory.", "", 0, .notApplicable⟩,
  ⟨"^IS", "Image Save", "Saves an image to the printer's memory for future use.", "", 0, .notApplicable⟩,
  ⟨"~JA", "Cancel All", "Cancels all active processes or printing operations.", "", 0, .notApplicable⟩,
  ⟨"^JB", "Initialize Flash Memory", "Initializes the flash memory, clearing any existing data.", "", 0, .notApplicable⟩,
  ⟨"~JB", "Reset Optional Memory", "Resets optional memory to its default state.", "", 0, .notApplicable⟩,
  ⟨"~JC", "Set Media Sensor Calibration", "Performs calibration of the media sensor to accurately detect media properties.", "", 0, .notApplicable⟩,
  ⟨"~JD", "Enable Communications Diagnostics", "Enables diagnostic mode for monitoring communication between the host and printer.", "", 0, .notApplicable⟩,
  ⟨"~JE", "Disable Diagnostics", "Disables diagnostic mode previously enabled for communication troubleshooting.", "", 0, .notApplicable⟩,
  ⟨"~JF", "Set Battery Condition", "Configures and monitors the condition or state of the printer's battery.", "", 0, .notApplicable⟩,
  ⟨"~JG", "Graphing Sensor Calibration", "Executes calibration and graphing of sensor data to ensure optimal performance.", "", 0, .notApplicable⟩,
  ⟨"^JJ", "Set Auxiliary Port", "Configures the auxiliary port with specific settings or parameters.", "", 0, .notApplicable⟩,
  ⟨"~JL", "Set Label Length", "Sets the length of the label for printing.", "", 0, .notApplicable⟩,
  ⟨"^JM", "Set Dots per Millimeter", "Defines the number of dots printed per millimeter.", "", 0, .notApplicable⟩,
  ⟨"~JN", "Head Test Fatal", "Performs a printhead test and flags any fatal errors.", "", 0, .notApplicable⟩,
  ⟨"~JO", "Head Test Non-Fatal", "Performs a printhead test and flags any non-fatal errors.", "", 0, .notApplicable⟩,
  ⟨"~JP", "Pause and Cancel Format", "Pauses the current operation and cancels any active format.", "", 0, .notApplicable⟩,
  ⟨"~JR", "Power On Reset", "Initiates a complete system reset as if the printer was powered on.", "", 0, .notApplicable⟩,
  ⟨"^JS", "Sensor Select", "Allows selection of the active sensor for media detection.", "", 0, .notApplicable⟩,
  ⟨"~JS", "Change Backfeed Sequence", "Modifies the backfeed sequence to optimize media positioning.", "", 0, .notApplicable⟩,
  ⟨"^JT", "Head Test Interval", "Sets the interval for performing automatic head tests.", "", 0, .notApplicable⟩,
  ⟨"^JU", "Configuration Update", "Updates printer configurations to the specified settings.", "", 0, .notApplicable⟩,
  ⟨"^JW", "Set Ribbon Tension", "Adjusts the ribbon tension to ensure proper media handling.", "", 0, .notApplicable⟩,
  ⟨"~JX", "Cancel Current Partially Input Format", "Cancels any command sequence partially entered by the user.", "", 0, .notApplicable⟩,
  ⟨"^JZ", "Reprint After Error", "Automatically reprints the last label after resolving an error.", "", 0, .notApplicable⟩,
  ⟨"~KB", "Kill Battery (Battery Discharge Mode)", "Activates battery discharge mode to fully deplete the battery.", "", 0, .notApplicable⟩,
  ⟨"^KD", "Select Date and Time Format (for Real-Time Clock)", "Defines the format for displaying date and time on the printer.", "", 0, .absent⟩,
  ⟨"^KL", "Define Language", "Sets the printer's default language for operations and prompts.", "", 0, .notApplicable⟩,
  ⟨"^KN", "Define Printer Name", "Assigns a custom name to the printer for easier identification.", "", 0, .notApplicable⟩,
  ⟨"^KP", "Define Password", "Configures a password for securing printer settings and operations.", "", 0, .notApplicable⟩,
  ⟨"^LH", "Label Home", "Sets the home position for the label, determining the top-left origin point for printing.", "^LHx,y", 0, .full⟩,
  ⟨"^LL", "Label Length", "Specifies the length of the label in dots, allowing printers to handle varying label sizes.", "", 0, .notApplicable⟩,
  ⟨"^LR", "Label Reverse Print", "Enables reverse label printing, allowing the label to be printed upside down.", "", 0, .absent⟩,
  ⟨"^LS", "Label Shift", "Shifts the label content horizontally to adjust its printing position.", "", 0, .absent⟩,
  ⟨"^LT", "Label Top", "Defines a vertical offset from the top edge of the label to adjust the printing position.", "", 0, .absent⟩,
  ⟨"^MC", "Map Clear", "Clears the memory of any stored mapping configurations.", "", 0, .notApplicable⟩,
  ⟨"^MD", "Media Darkness", "Adjusts the darkness level for printing on the media.", "", 0, .notApplicable⟩,
  ⟨"^MF", "Media Feed", "Controls the length of media fed before printing.", "", 0, .notApplicable⟩,
  ⟨"^ML", "Maximum Label Length", "Specifies the maximum length of the label the printer can handle.", "", 0, .notApplicable⟩,
  ⟨"^MM", "Print Mode", "Sets the mode of printing, such as tear-off or direct thermal.", "", 0, .notApplicable⟩,
  ⟨"^MN", "Media Tracking", "Configures the type of media tracking to be used by the printer, such as continuous or mark sensing.", "", 0, .notApplicable⟩,
  ⟨"^MP", "Mode Protection", "Enables or disables protected operational modes to prevent unauthorized changes.", "", 0, .notApplicable⟩,
  ⟨"^MT", "Media Type", "Specifies the type of media being used, such as thermal transfer or direct thermal.", "", 0, .notApplicable⟩,
  ⟨"^MU", "Set Units of Measurement", "Defines the unit of measurement for printer operations, such as inches or millimeters.", "", 0, .absent⟩,
  ⟨"^MW", "Modify Head Cold Warning", "Adjusts the settings for the cold printhead warning to ensure optimal printing performance.", "", 0, .notApplicable⟩,
  ⟨"~NC", "Network Connect", "Establishes a connection between the printer and a network.", "", 0, .notApplicable⟩,
  ⟨"^NI", "Network ID Number", "Specifies the unique identification number for the network.", "", 0, .notApplicable⟩,
  ⟨"~NR", "Set All Network Printers Transparent", "Configures all network printers for transparent mode.", "", 0, .notApplicable⟩,
  ⟨"^NS", "Change Networking Settings", "Modifies the network settings for the printer.", "", 0, .notApplicable⟩,
  ⟨"~NT", "Set Currently Connected Printer Transparent", "Sets the currently connected printer to transparent mode.", "", 0, .notApplicable⟩,
  ⟨"^PF", "Slew Given Number of Dot Rows", "Moves the print head by a specific number of dot rows without printing.", "", 0, .absent⟩,
  ⟨"^PH", "~PH Slew to Home Position", "Repositions the print head to the home position for alignment.", "", 0, .absent⟩,
  ⟨"^PM", "Printing Mirror Image of Label", "Flips the label content to produce a mirrored image for printing.", "", 0, .absent⟩,
  ⟨"^PO", "Print Orientation", "Defines the orientation of the printed label, such as normal or rotated.", "", 0, .absent⟩,
  ⟨"^PP", "~PP Programmable Pause", "Pauses the printer operation at a specific point in the process, allowing manual intervention if needed.", "", 0, .notApplicable⟩,
  ⟨"^PQ", "Print Quantity", "Defines the number of labels to be printed for the current job.", "", 0, .notApplicable⟩,
  ⟨"^PR", "Print Rate", "Adjusts the speed at which printing is performed.", "", 0, .notApplicable⟩,
  ⟨"~PR", "Applicator Reprint", "Sends a command to the applicator to reprint the last label.", "", 0, .notApplicable⟩,
  ⟨"~PS", "Print Start", "Initiates the printing process or resumes from a paused state.", "", 0, .notApplicable⟩,
  ⟨"^PW", "Print Width", "Specifies the width of the label to be printed, measured in dots.", "", 0, .notApplicable⟩,
  ⟨"~RO", "Reset Advanced Counter", "Resets the advanced counter to its initial value for re-use.", "", 0, .notApplicable⟩,
  ⟨"^SC", "Set Serial Communications", "Configures the serial communication settings, such as baud rate or parity.", "", 0, .notApplicable⟩,
  ⟨"~SD", "Set Darkness", "Adjusts the printing intensity by modifying the darkness level.", "", 0, .notApplicable⟩,
  ⟨"^SE", "Select Encoding", "Specifies the character encoding to be used for the printed content.", "", 0, .notApplicable⟩,
  ⟨"^SF", "Serialization Field (with a Standard ^FD String)", "Defines a field that is automatically serialized using a standard ^FD string.", "", 0, .absent⟩,
  ⟨"^SL", "Set Mode and Language (for Real-Time Clock)", "Configures the mode and language settings for the real-time clock functionality.", "", 0, .absent⟩,
  ⟨"^SN", "Serialization Data", "Specifies the settings for serialization data such as start value and increments.", "", 0, .absent⟩,
  ⟨"^SO", "Set Offset (for Real-Time Clock)", "Defines a time offset for the real-time clock to adjust its current value.", "", 0, .absent⟩,
  ⟨"^SP", "Start Print", "Starts the printing process for the specified format.", "", 0, .notApplicable⟩,
  ⟨"^SQ", "Halt ZebraNet Alert", "Stops alerts being sent through ZebraNet.", "", 0, .notApplicable⟩,
  ⟨"^SR", "Set Printhead Resistance", "Configures the resistance value for the printhead.", "", 0, .notApplicable⟩,
  ⟨"^SS", "Set Media Sensors", "Sets the configuration for the printer's media sensors.", "", 0, .notApplicable⟩,
  ⟨"^ST", "Set Date and Time (for Real-Time Clock)", "Sets the date and time for the printer's real-time clock.", "", 0, .absent⟩,
  ⟨"^SX", "Set ZebraNet Alert", "Configures alert settings for ZebraNet.", "", 0, .notApplicable⟩,
  ⟨"^SZ", "Set ZPL", "Specifies the ZPL mode for the printer.", "", 0, .notApplicable⟩,
  ⟨"~TA", "Tear-off Adjust Position", "Adjusts the position where media tears off after printing.", "", 0, .notApplicable⟩,
  ⟨"^TO", "Transfer Object", "Transfers an object, such as a graphic or format, to the printer.", "", 0, .notApplicable⟩,
  ⟨"~WC", "Print Configuration Label", "Prints a label showing current printer configurations.", "", 0, .absent⟩,
  ⟨"^WD", "Print Directory Label", "Prints a label listing the contents of printer memory.", "", 0, .notApplicable⟩,
  ⟨"^XA", "Start Format", "Marks the beginning of a new ZPL format.", "^XA", 0, .full⟩,
  ⟨"^XB", "Suppress Backfeed", "Prevents the media from being fed backward after a print job.", "", 0, .notApplicable⟩,
  ⟨"^XF", "Recall Format", "Retrieves a stored ZPL format from the printer's memory.", "", 0, .notApplicable⟩,
  ⟨"^XG", "Recall Graphic", "Retrieves a stored graphic from the printer's memory for printing.", "", 0, .notApplicable⟩,
  ⟨"^XZ", "End Format", "Marks the end of a ZPL format.", "^XZ", 0, .full⟩,
  ⟨"^ZZ", "Printer Sleep", "Puts the printer into sleep mode to conserve power.", "", 0, .notApplicable⟩
]

/-- The entry of a command. -/
def find? (command : List Char) : Option CatalogEntry :=
  entries.find? fun entry => entry.command == String.ofList command

end Catalog

end LabelPreview
